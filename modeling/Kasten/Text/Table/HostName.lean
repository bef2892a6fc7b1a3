import Kasten.Text.CharSet

/-!
# Characters of host names

Which characters an internationalised host name may not hold, which it drops, and the classes
that the rules on writing direction and on joiners ask for.
-/

namespace Kasten.Text.Table

/-- The characters that make a host name invalid. -/
def hostDisallowed : CharSet := CharSet.ofGaps
  [
    "80 20 2d8 2 6 4 7 1 1 1 14 1 18d 1 26 2 32 2 3 1 37 8 1b 4 6 11 16 1 c0 1 30 2 3b 2 65 e 3b",
    "2 31 2 f 1 1c 2 1 1 b 5 20 7 4b 1 a1 1 8 2 2 2 16 1 7 1 1 3 4 2 9 2 2 2 4 8 1 4 2 1 5 2 19 2",
    "3 1 6 4 2 2 16 1 7 1 2 1 2 1 2 2 1 1 5 4 2 2 3 3 1 7 4 1 1 7 11 a 3 1 9 1 3 1 16 1 7 1 2 1 5",
    "2 a 1 3 1 3 2 1 f 4 2 c 7 7 1 3 1 8 2 2 2 16 1 7 1 2 1 5 2 9 2 2 2 3 7 3 4 2 1 5 2 12 a 2 1",
    "6 3 3 1 4 3 2 1 1 1 2 3 2 3 3 3 c 4 5 3 3 1 4 2 1 6 1 e 15 5 d 1 3 1 17 1 10 2 9 1 3 1 4 7 2",
    "1 3 1 2 2 4 2 a 7 16 1 3 1 17 1 a 1 5 2 9 1 3 1 4 7 2 5 3 1 4 2 a 1 3 c d 1 3 1 33 1 3 1 6 4",
    "10 2 1a 1 3 1 12 3 18 1 9 1 1 2 7 3 1 4 6 1 1 1 8 6 a 2 3 c 3a 4 1d 25 2 1 1 1 5 1 18 1 1 1",
    "17 2 5 1 1 1 7 1 a 2 4 20 48 1 24 4 27 1 24 1 f 1 d 25 c6 1 1 5 1 2 179 1 4 2 7 1 1 1 4 2 29",
    "1 4 2 21 1 4 2 7 1 1 1 4 2 f 1 39 1 4 2 43 2 20 3 1a 6 56 2 6 2 280 1 1c 3 59 7 16 9 18 9 14",
    "c d 1 3 1 2 c 5e 2 a 6 a 6 1a 6 59 7 2b 5 46 a 1f 1 c 4 c 4 1 3 2a 2 5 b 2c 4 1a 6 b 3 3e 2",
    "41 1 1d 2 b 6 a 6 e 2 2e 2 c 14 4d 1 a6 8 3c 3 f 3 3e 5 2b 2 b 8 2b 5 216 2 6 2 26 2 6 2 8 1",
    "1 1 1 1 1 1 1f 2 35 1 f 1 e 2 6 1 13 2 3 1 9 1 e 2 14 3 1 7 36 5 8 2 1b 1 d 3 22 e 21 f 8c 4",
    "29a 16 b 15 28 14 6d8 2 17e 5 2d 1 1 5 1 2 38 7 2 e 18 9 7 1 7 1 7 1 7 1 7 1 7 1 7 1 7 1 7e",
    "22 1a 1 59 c d6 2a 40 1 56 2 67 5 2b 1 5e 1 56 a 2f 1 1a2 1 4 1 10 1 70b4 3 37 9 15c 14 b8 8",
    "dd 14 3c 3 a 6 38 8 46 8 c 6 74 b 1e 3 4e 1 b 4 21 1 37 9 e 2 a 2 67 18 1c a 6 2 6 2 6 9 7 1",
    "7 1 3c 4 7e 2 a 6 2ba4 c 17 4 31 2104 16e 2 6a 26 7 c 5 5 1a 1 5 1 1 1 2 1 2 1 28a 20 22 1 6",
    "7 10 1 21 2 13 1 4 4 5 1 87 2 1 1 be 3 6 2 6 2 6 2 3 3 7 1 7 11 c 1 1a 1 13 1 2 1 f 2 e 22",
    "7b 5 3 4 2d 3 58 1 d 3 1 2f 2e 82 1d 3 31 f 1c 4 24 9 1e 5 2b 5 1e 1 25 4 e 2a 9e 2 a 6 24 4",
    "24 4 28 8 34 b c 1 f 1 7 1 2 1 b 1 f 1 7 1 2 3 34 c 137 9 16 a 8 18 6 1 2a 1 9 45 6 2 1 1 2c",
    "1 2 3 1 2 17 1 48 8 9 30 13 1 2 5 21 3 1b 5 1b 26 38 4 14 2 32 1 2 5 8 1 3 1 1d 2 3 4 a 7 9",
    "7 40 20 27 4 c 9 36 3 1d 2 1b 5 1a 7 4 c 7 50 49 37 33 d 33 7 2e 8 a 6 26 3 1d 8 2 d0 1f 1",
    "2a 1 3 2 2 10 6 8 9 21 2e 8 2a 16 1a 26 1c 14 17 9 4e 4 24 9 3e 1 5 d 19 7 a 6 35 1 12 8 27",
    "9 60 1 14 b 12 1 2f 3e 7 1 1 1 4 1 f 1 b 6 3b 5 a 6 4 1 8 2 2 2 16 1 7 1 2 1 5 1 a 2 2 2 3 2",
    "1 6 1 5 7 2 7 3 5 b a 1 1 2 1 1 26 1 a 1 1 2 1 1 4 1 a 1 2 8 2 1d 5c 1 5 1e 48 8 a a6 36 2",
    "26 22 45 b a 6 d 13 3a 6 a 6 14 1c 1b 2 f 4 17 b9 3c 64 53 c 8 2 1 2 8 1 2 1 1e 1 2 2 c 9 a",
    "46 8 2 2e 2 b 1b 48 8 53 d 49 7 a 56 8 58 22 e a 6 9 1 2d 1 e a 1d 3 20 2 16 1 e 49 7 1 2 1",
    "2c 3 1 1 2 1 9 8 a 6 6 1 2 1 25 1 2 1 6 7 a 6 2c 4 a f6 19 7 11 1 29 3 1d 55 1 f 32 d 39b 66",
    "6f 1 5 b c4 a4c 63 d 430 10 16 a f9b 5 247 1ab9 3a 6c6 239 7 1f 1 a 4 51 1 a 6 1e 2 6 a 46 a",
    "a 1 7 1 15 5 13 1b0 3a c6 5b 5 19 2 19 2c 4b 4 39 7 11 40 5 b 7 9 1cd6 29 20 61 73 21fd 4 1",
    "7 1 2 1 123 f 1 1d 3 2 1 e 4 8 18c 904 6b 5 d 3 9 7 a 2 8 f5c fd 3 1b4 6 17 f 11 f 2e 2 17 9",
    "74 3c f6 a 27 2 c2 15 46 7a 14 c 14 c 57 9 19 87 55 1 47 1 2 2 1 2 2 2 4 1 c 1 1 1 7 1 41 1",
    "4 2 8 1 7 1 1c 1 4 1 5 1 1 3 7 1 154 2 124 2 2be f 5 1 f 450 1f 6 6 d5 7 1 11 2 7 1 2 1 5 5",
    "3e 21 1 70 2d 3 e 2 a 4 2 140 1f 11 3a 5 1 1d0 2a d6 2b 4 1 c0 1f 1 16 8 2 e0 7 1 4 1 2 1 f",
    "1 c5 2 10 29 4c 4 a 4 2 311 44 4c 3d c2 4 1 1b 1 2 1 1 2 1 1 a 1 4 1 1 1 1 6 1 4 1 1 1 1 1 1",
    "3 1 2 1 1 2 1 1 1 1 1 1 1 1 1 1 2 1 1 2 4 1 7 1 4 1 4 1 1 1 a 1 11 5 3 1 5 1 11 34 2 10e 2c",
    "4 64 c f 2 f 1 f 1 25 b ad 38 1d d 2c 4 9 7 2 e 6 9a 3d9 3 11 3 d 3 da 6 c 4 1 f c 4 38 8 a",
    "6 28 8 1e 2 c 4 2 e 9 27 158 8 e 2 d 3 b 3 39 1 1 4 10 2 c 4 a 7 93 1 67 405 a6e0 20 111e 2",
    "168e 2 1d31 f 26e 9a2 21e 5e2 134b 5 212a acc86 f0 2fe10"]

/-- The characters that a host name drops. -/
def hostIgnored : CharSet := CharSet.ofGaps
  [
    "ad 1 2a1 1 e0f 2 653 2 55 5 7fb 1 54 5 5 6 10f4 1 cc9b 10 ef 1 a0 1 bcff 4 14cf 8 c2f85 f0"]

/-- The characters that a host name holds in another form only. -/
def hostMapped : CharSet := CharSet.ofGaps
  [
    "a0 1 7 1 1 1 4 1 2 4 2 3 1 3 1 17 1 7 21 1 1 1 1 1 1 1 1 1 1 1 1 1 1 1 1 1 1 1 1 1 1 1 1 1 1",
    "1 1 1 1 1 1 1 1 1 1 1 1 1 1 1 1 1 1 1 1 1 1 1 1 3 1 1 2 1 1 1 1 1 1 3 1 1 1 1 1 1 1 2 1 1 1",
    "1 1 1 1 1 1 1 1 1 1 1 1 1 1 1 1 1 1 1 1 1 1 1 1 1 1 1 1 1 1 1 1 1 1 1 1 1 1 1 1 1 1 2 1 1 1",
    "1 1 1 1 2 1 1 1 2 1 3 2 4 1 2 1 3 3 2 1 2 1 1 1 1 1 2 1 1 2 1 1 2 1 3 1 1 1 2 3 1 7 a 1 1 1",
    "1 1 1 1 1 1 1 1 1 1 1 2 1 1 1 1 1 1 1 1 1 1 1 1 1 1 1 1 1 2 4 1 3 1 1 1 1 1 1 1 1 1 1 1 1 1",
    "1 1 1 1 1 1 1 1 1 1 1 1 1 1 1 1 1 1 1 1 1 1 1 1 1 1 1 1 1 1 1 1 1 1 1 1 1 1 1 1 1 1 1 1 1 7",
    "2 1 2 2 1 1 4 1 1 1 1 1 1 1 1 61 9 1f 6 2 5 5b 2 1 3 2a 1 1 1 1 1 1 1 3 1 3 2 4 7 1 1 1 2 1",
    "11 1 9 23 8 1 1 1 1 1 1 1 1 1 1 1 1 1 1 1 1 1 1 1 1 1 1 1 1 1 3 1 2 1 1 1 2 2 33 30 1 1 1 1",
    "1 1 1 1 1 1 1 1 1 1 1 1 1 1 1 1 1 1 1 1 1 1 1 1 1 1 1 1 1 9 1 1 1 1 1 1 1 1 1 1 1 1 1 1 1 1",
    "1 1 1 1 1 1 1 1 1 1 1 1 1 1 1 1 1 1 1 1 1 1 1 1 1 1 1 1 1 1 1 1 1 1 1 1 1 1 2 1 1 1 1 1 1 1",
    "1 1 1 1 1 2 1 1 1 1 1 1 1 1 1 1 1 1 1 1 1 1 1 1 1 1 1 1 1 1 1 1 1 1 1 1 1 1 1 1 1 1 1 1 1 1",
    "1 1 1 1 1 1 1 1 1 1 1 1 1 1 1 1 1 1 1 1 1 1 1 1 1 1 1 1 1 1 1 1 1 1 1 1 1 1 1 1 1 1 1 1 1 1",
    "1 1 1 1 1 1 1 1 1 2 26 30 1 ed 4 2df 8 7c 2 1 1 53 1 2 1 22 3 2 1 fd 2 2d5 1 7f 1 28 2 2e 1",
    "36 1 9 1 4 1 4 1 4 1 c 1 9 1 1 5 7 1 11 1 9 1 4 1 4 1 4 1 c 1 e6 26 1 1 5 1 2e 1 2fb 6 882 a",
    "6 2b 2 3 6c 3 1 b 1 12 1 1c d 1 22 25 40 1 1 1 1 1 1 1 1 1 1 1 1 1 1 1 1 1 1 1 1 1 1 1 1 1 1",
    "1 1 1 1 1 1 1 1 1 1 1 1 1 1 1 1 1 1 1 1 1 1 1 1 1 1 1 1 1 1 1 1 1 1 1 1 1 1 1 1 1 1 1 1 1 1",
    "1 1 1 1 1 1 1 1 1 1 1 1 1 1 1 1 1 1 1 1 1 1 1 1 1 1 1 1 1 1 1 1 1 1 1 1 1 1 1 1 1 1 1 1 1 1",
    "1 1 1 1 1 1 1 1 1 1 1 1 1 1 1 1 1 1 1 1 1 1 1 1 1 1 1 1 1 1 1 5 2 2 1 1 1 1 1 1 1 1 1 1 1 1",
    "1 1 1 1 1 1 1 1 1 1 1 1 1 1 1 1 1 1 1 1 1 1 1 1 1 1 1 1 1 1 1 1 1 1 1 1 1 1 1 1 1 1 1 1 1 1",
    "1 1 1 1 1 1 1 1 1 1 1 1 1 1 1 1 1 1 1 1 1 1 1 1 1 1 1 1 1 1 1 1 1 1 1 1 1 1 1 9 8 8 6 a 8 8",
    "8 8 6 b 1 1 1 1 1 1 1 8 8 1 1 1 1 1 1 1 1 1 1 1 1 1 1 2 30 2 3 2 e 2 9 3 1 4 4 1 3 3 1 4 8 2",
    "3 2 8 1 b 6 1 5 1 17 1 3 2 1 2 4 1 1 1 8 3 d 1 7 1 10 2 2 1b 1 d b 1 57 4 1 3 1 b 1 2 2 5 2",
    "3 1 1 1 1 1 1 1 4 1 b 1 6 4 5 6 30 3 1 5 1 a2 2 1 2 f8 2 135 28 14 4f 521 1 67 3 65 1 123 30",
    "30 1 1 3 2 1 1 1 1 1 1 4 1 1 2 1 6 5 1 1 1 1 1 1 1 1 1 1 1 1 1 1 1 1 1 1 1 1 1 1 1 1 1 1 1 1",
    "1 1 1 1 1 1 1 1 1 1 1 1 1 1 1 1 1 1 1 1 1 1 1 1 1 1 1 1 1 1 1 1 1 1 1 1 1 1 1 1 1 1 1 1 1 1",
    "1 1 1 1 1 1 1 1 1 1 1 1 1 1 1 1 1 1 1 1 1 1 1 1 8 1 1 1 4 1 7c 1 12f 1 53 1 c d6 2a 1 1 1 33",
    "1 1 3 60 2 2 1 5f 1 31 33 1 2a 3 e 60 1f 1 28 8 2f 1 142 1 4 1 10 1 27 7240 1 1 1 1 1 1 1 1",
    "1 1 1 1 1 1 1 1 1 1 1 1 1 1 1 1 1 1 1 1 1 1 1 1 1 1 1 1 1 1 1 1 1 1 1 1 1 13 1 1 1 1 1 1 1 1",
    "1 1 1 1 1 1 1 1 1 1 1 1 1 1 1 1 1 1 1 1 2 84 1 1 1 1 1 1 1 1 1 1 1 1 1 3 1 1 1 1 1 1 1 1 1 1",
    "1 1 1 1 1 1 1 1 1 1 1 1 1 1 1 1 1 1 1 1 1 1 1 1 1 1 1 1 1 1 1 1 1 1 1 1 1 1 1 1 1 1 1 1 1 1",
    "1 1 1 1 1 1 1 8 1 1 1 1 2 1 1 1 1 1 1 1 1 4 1 1 1 2 1 1 1 3 1 1 1 1 1 1 1 1 1 1 1 1 1 1 1 1",
    "1 1 1 1 5 1 5 1 1 1 1 1 1 1 1 1 1 1 1 1 1 1 4 1 1 1 2 1 1 1 1 1 1 1 1 1 1 1 1 1 1 1 1 14 5 2",
    "2 362 4 9 1 6 50 4d40 10e 2 1 1 1 2 a 1 1 1 1 2 2 3 44 2 6a 26 7 c 5 5 1 1 18 1 5 1 1 1 2 1",
    "2 1 6c 21 16b 12 40 2 36 28 d 13 2 1 6 18 14 2 b 2 13 1 4 4 3 1 1 1 87 4 9f 1 1e 3 6 2 6 2 6",
    "2 3 3 7 1 7 411 28 88 24 9c b 1 f 1 7 1 2 1eb 5 1 2a 1 9 4c5 33 9d 16 b3a 20 5580 20 40 19",
    "5e1d 24 464 7 56 6 23f 55 1 47 1 2 2 1 2 2 2 4 1 c 1 1 1 7 1 41 1 4 2 8 1 7 1 1c 1 4 1 5 1 1",
    "3 7 1 154 2 124 2 32 830 3e 892 22 4de 4 1 1b 1 2 1 1 2 1 1 a 1 4 1 1 1 1 6 1 4 1 1 1 1 1 1",
    "3 1 2 1 1 2 1 1 1 1 1 1 1 1 1 1 2 1 1 2 4 1 7 1 4 1 4 1 1 1 a 1 11 5 3 1 5 1 11 245 a 5 1f 1",
    "20 1a 3 23 1 6f 3 d 2c 4 9 7 2 99e a fc06 21e"]

/-- The characters of the directions R and AL. -/
def rightToLeft : CharSet := CharSet.ofGaps
  [
    "5be 1 1 1 2 1 2 1 9 1b 4 6 13 1 2 1 1 1 d 1 1 2e 22 3 1 65 f 2 7 2 a 14 2 1 1 1e 1d 59 b 1 e",
    "2b 9 2 4 1 3 18 4 1 9 1 3 1 7 f 1 19 5 1 1 b 5 1f 11 2a f253 1 1 a 1 d 1 5 1 1 1 2 1 2 1 7d",
    "10 16b 12 40 2 36 28 d 73 5 1 87 903 6 2 1 1 2c 1 2 3 1 2 17 1 48 8 9 30 13 1 2 5 21 4 1a 5",
    "1 40 38 4 14 2 2f f 4 1 3 1 1d a 9 7 9 7 40 20 25 6 c 9 36 a 16 2 1b 5 1a 7 4 c 7 50 49 37",
    "33 d 33 7 2a 15c 2a 3 1 2 2 4e 28 8 16 b 9 16 12 4 4 26 1c 14 17 d809 c5 2 9 30 44 7 1 4 a 4",
    "2 311 44 4c 3d c2 4 1 1b 1 2 1 1 2 1 1 a 1 4 1 1 1 1 6 1 4 1 1 1 1 1 1 3 1 2 1 1 2 1 1 1 1 1",
    "1 1 1 1 1 2 1 1 2 4 1 7 1 4 1 4 1 1 1 a 1 11 5 3 1 5 1 11"]

/-- The characters of the direction AN. -/
def arabicNumbers : CharSet := CharSet.ofGaps
  [
    "660 a 1 2 106c3 a 126 1f"]

/-- The characters of the direction EN. -/
def europeanNumbers : CharSet := CharSet.ofGaps
  [
    "30 a 78 2 5 1 636 a 1976 1 3 6 6 a de86 a 3c7 1b d4d2 32 1901 a ae5 a"]

/-- The characters with no direction of their own, numbers apart. -/
def directionNeutral : CharSet := CharSet.ofGaps
  [
    "0 30 a 7 1a 6 1a 5 20 a 1 7 2 1 1 3 2 5 17 1 1f 1 1c1 2 7 e 2 e 5 9 1 81 4 2 8 1 5 2 1 1 6e",
    "1 8c 7 100 1 2 3 1 2d 1 1 1 2 1 2 1 1 3e 2 1 2 1 1 1 d 30 15 a 1 5 1 65 7 1 7 2 7 23 1 1e 1b",
    "5b b 3a 9 2 4 3 1 18 4 1 9 1 3 1 5 2b 3 3c 8 2a 18 1 20 37 1 1 1 4 8 4 1 3 7 a 2 1d 1 3a 1 4",
    "4 8 1 14 2 e 2 7 1 2 1 2 2 39 1 4 2 4 2 2 3 3 1 1e 2 3 1 b 2 39 1 4 5 1 2 4 1 14 2 d 1 8 6 1",
    "1 3a 1 2 1 1 4 8 1 7 2 b 2 1e 1 3d 1 c 1 25 8 5 1 3 1 37 1 1 3 5 3 1 4 7 2 b 2 14 7 2 1 3a 1",
    "f 2 14 2 1c 2 39 2 4 4 8 1 14 2 1d 1 48 1 7 3 1 1 5a 1 2 7 4 1 7 8 62 1 2 9 b 7 49 2 1b 1 1",
    "1 1 5 33 e 1 5 1 2 5 b 1 24 9 1 66 4 1 6 1 2 2 2 19 2 4 3 10 4 d 1 2 2 6 1 f 1 2bf 3 30 a 66",
    "1 29a 2 75 3 1d 2 1e 2 1e 2 40 2 1 7 8 1 2 b 7 1 1 1 12 a 6 10 75 2 22 1 76 3 4 2 9 1 6 3 4",
    "1 3 2 98 22 17 2 2 1 3a 1 1 7 1 1 1 1 2 8 6 a 2 1 30 1f 31 4 30 1 1 5 1 1 5 1 28 9 c 2 20 4",
    "2 2 1 3 38 1 1 2 3 1 1 3 3a 8 2 2 98 3 1 d 1 7 4 1 6 1 3 2 c6 40 1bd 1 1 3 b 3 d 3 d 3 d 2 1",
    "e 2 14 3 1 7 36 5 6 a 5 b 5 11 21 f 21 f 2 1 4 1 2 a 1 1 3 5 6 1 1 1 1 1 1 4 1 b 2 4 5 5 4 2",
    "10 29 3 4 1a6 45 1a 1 91 19 b 15 28 62 1c2 1 153 100 274 2 20 1 69 e5 6 4 3 7 7 7f 1 60 7e",
    "22 1a 1 59 c d6 2a 5 3 19 9 4 2 1 5 2 5 3 59 4 3 1 5a 1 c4 24 39 2 31 10 1c 3 32 f c 4 a7 4",
    "63 2 1f 1 19c0 40 5690 37 146 3 5f 11 1e 2 50 2 e 22 66 1 79 1 3 1 4 1 19 2 1 5 b 2 3a 4 4c",
    "2 1a 12 d 1 26 8 19 b 2e 3 30 1 2 4 2 2 27 1 43 6 2 2 2 2 c 1 8 1 2f 1 33 1 1 3 2 2 5 2 1 1",
    "2a 2 8 1 73 2 79 1 2 1 4 1 4f30 1 a 1 214 12 7f 1 2d 15 1 6 7 10 1 21 2 13 1 4 93 1 1 f a 7",
    "1a 6 1a b 7a 7 1 7 112 1 3e 4d 3 d 3 1 5c 1 e2 1 95 5 5a4 1 e1 3 1 2 5 4 28 3 4 1 a5 2 52 7",
    "1e4 4 183 2 50 3 46 b 31 4 7b 1 36 f b 14 a 1 2 2 a 3 31 4 2 2 7 1 3d 3 24 5 1 8 3e 1 c 2 34",
    "9 a 4 2 1 5f 3 2 1 1 2 6 1 2 1 9d 1 3 8 15 2 39 2 3 1 25 7 3 5 c3 8 2 3 1 1 17 1 54 6 1 1 4",
    "2 1 2 ee 4 6 2 1 2 1b 2 55 8 2 1 1 2 1f d 3e 1 1 1 2 6 1 1 65 3 2 4 1 5 103 9 1 2 100 2 1 1",
    "4 1 90 4 2 2 4 1 20 6 2 2 28 6 2 4 8 1 9 6 2 3 2e d 1 2 196 7 1 6 54 16 2 7 1 2 1 2 7a 6 3 1",
    "1 2 1 7 1 1 48 2 3 1 1 1 15b 2 b 2 34 5 5 1 1 1 92 1d 144e 1 6 f 369a 5 3b 7 418 1 3f 4 4f 1",
    "1 1 4cb8 2 1 4 125c 2e 2 17 220 3 9 10 2 7 1e 4 3b 2 15 46 ba 57 384 1 39 1 39 1 39 1 39 1",
    "23c 37 4 32 8 1 e 1 16 5 1 f 550 7 1 11 2 7 1 2 1 5 64 1 a0 7 177 1 3d 4 f 1 1ec 4 3e0 7 6d",
    "7 5a5 2 10e 2c 4 64 c f 2 f 1 f 1 25 15 5 1f 1 3a 6 3d 1 b2 6 9a 3d8 4 11 3 d 3 77 4 5f 6 c",
    "4 1 f c 4 38 8 a 6 28 8 1e 2 2 4e 154 c e 2 d 3 9 7 2e 1 7 8 e 4 9 7 9 7 93 1 37 c0535 f0"]

/-- The characters that may join the one after them. -/
def joinsForward : CharSet := CharSet.ofGaps
  [
    "620 1 5 1 1 1 1 5 4 d 1 7 1 2 23 2 8 10 12 26 1 2 9 1 1 1 1 2 28 3 2 1 12 3 5 4 1 9 1 1 1 1",
    "1 2 1f b 3 f 2 4 1 1 2 3 2 6 4a 21 56 5 2 1 1 a 1 1 a 1 1 4 2 1 1d 1 2 5 1 1 10 a 5 2 2 6 1",
    "f f3e 1 18 59 e 22 1 1 8f95 33 624d 5 8 1 5 a 1 3 a 4 91 1 1 1 3 3 1 2 1 1 2 1 1c 2 151 22 1",
    "1 19f 2 1 2 68 3 1 11 c 3 1c 4 2 c 2e 1 1 2 4 1 2 2 1 2 1 1 2 1 5 2 d934 44"]

/-- The characters that may join the one before them. -/
def joinsBackward : CharSet := CharSet.ofGaps
  [
    "620 1 1 1e 1 a 23 2 1 3 1 5f 1 1 18 2 a 3 2 1 10 1 1 1e 1d 33 4a 21 55 19 7 1 1 4 1 4 5 13 3",
    "1 2 7 10 d 1 1b f3e 1 18 59 e 22 1 1 8f95 32 624e 6 1 1 1 2 3 9 1 a 2 1 6 5 90 12 17 6 152",
    "23 19e 3 1 2 68 15 c 4 1b 12 2e 1 1 5 1 8 1 4 4 2 d935 44"]

end Kasten.Text.Table
