import Kasten.Text.CharSet

/-!
# Letter case

Which characters have a case, which are passed over when the neighbours of a letter are looked
at, and the lower case of every character that has one of a single character.
-/

namespace Kasten.Text.Table

/-- The characters with the property Cased. -/
def cased : CharSet := CharSet.ofGaps
  [
    "41 1a 6 1a 2f 1 a 1 4 1 5 17 1 1f 1 c3 1 4 4 d0 1 24 7 2 1e 5 60 1 2a 4 2 2 2 4 1 1 6 1 1 3",
    "1 1 1 14 1 53 1 8b 8 a6 1 26 9 29 b17 26 1 1 5 1 2 2b 1 4 2a0 56 2 6 882 b 5 2b 2 3 40 c0 40",
    "116 2 6 2 26 2 6 2 8 1 1 1 1 1 1 1 1f 2 35 1 7 1 1 3 3 1 7 3 4 2 6 4 d 5 3 1 7 74 1 d 1 10 d",
    "65 1 4 1 2 a 1 1 3 5 6 1 1 1 1 1 1 4 1 6 4 1 2 4 5 5 4 1 11 20 3 2 331 34 716 e5 6 4 3 2 c",
    "26 1 1 5 1 7912 2e 12 1e 84 66 3 4 1 3e 2 2 1 1 1 8 15 5 1 3 335 2b 1 e 6 50 4f40 7 c 5 409",
    "1a 6 1a 4a5 50 60 24 4 24 74 b 1 f 1 7 1 2 1 b 1 f 1 7 1 2 1c3 1 2 3 1 2a 1 9 4c5 33 d 33 5d",
    "16 a 16 b1a 40 5560 40 6580 55 1 47 1 2 2 1 2 2 2 4 1 c 1 1 1 7 1 41 1 4 2 8 1 7 1 1c 1 4 1",
    "5 1 1 3 7 1 154 2 19 1 19 1 1f 1 19 1 1f 1 19 1 1f 1 19 1 1f 1 19 1 8 734 a 1 14 6 6 105 3e",
    "892 44 7ec 1a 6 1a 6 1a"]

/-- The characters with the property Case_Ignorable. -/
def caseIgnorable : CharSet := CharSet.ofGaps
  [
    "27 1 6 1 b 1 23 1 1 1 47 1 4 1 1 1 4 1 2 2 1f7 c0 4 2 4 1 9 2 1 1 fb 7 cf 1 5 1 31 2d 1 1 1",
    "2 1 2 1 1 2c 1 b 6 a b 1 1 23 1 a 15 10 1 65 8 1 a 1 4 21 1 1 1 1e 1b 5b b 3a b 4 1 2 1 18",
    "18 2b 3 2c 1 7 2 5 9 29 3a 37 1 1 1 4 8 4 1 3 7 a 2 d 1 f 1 3a 1 4 4 8 1 14 2 1a 1 2 2 39 1",
    "4 2 4 2 2 3 3 1 1e 2 3 1 b 2 39 1 4 5 1 2 4 1 14 2 16 6 1 1 3a 1 2 1 1 4 8 1 7 2 b 2 1e 1 3d",
    "1 c 1 32 1 3 1 37 1 1 3 5 3 1 4 7 2 b 2 1d 1 3a 1 2 1 6 1 5 2 14 2 1c 2 39 2 4 4 8 1 14 2 1d",
    "1 48 1 7 3 1 1 5a 1 2 7 b 9 62 1 2 9 9 1 1 7 49 2 1b 1 1 1 1 1 37 e 1 5 1 2 5 b 1 24 9 1 66",
    "4 1 6 1 2 2 2 19 2 4 3 10 4 d 1 2 2 6 1 f 1 5e 1 260 3 3b2 3 1d 2 1e 2 1e 2 40 2 1 7 8 1 2 b",
    "3 1 5 1 2d 5 33 1 41 2 22 1 76 3 4 2 9 1 6 3 db 2 2 1 3a 1 1 7 1 1 1 1 2 8 6 a 2 1 27 1 8 1f",
    "31 4 30 1 1 5 1 1 5 1 28 9 c 2 20 4 2 2 1 3 38 1 1 2 3 1 1 3 3a 8 2 2 40 6 52 3 1 d 1 7 4 1",
    "6 1 3 2 32 3f d 1 22 65 1bd 1 1 3 b 3 d 3 d 3 d 2 c 5 8 2 a 1 2 1 2 5 31 5 1 a 1 1 d 1 10 d",
    "33 21 b8b 2 71 3 7d 1 f 1 60 20 2f 1 1d5 1 24 4 3 5 5 1 5d 6 5d 3 6f16 1 4e2 6 10e 1 62 4 1",
    "a 1 1 1c 4 50 2 e 22 4e 1 17 3 67 3 3 2 8 1 3 1 4 1 19 2 5 1 97 2 1a 12 d 1 26 8 19 b 2e 3",
    "30 1 2 4 2 2 11 1 15 2 42 6 2 2 2 2 c 1 8 1 23 1 b 1 33 1 1 3 2 2 5 2 1 1 1b 1 e 2 5 2 1 1",
    "64 5 9 3 79 1 2 1 4 1 4f30 1 93 11 23d 10 3 1 c 10 22 1 2 1 a9 1 7 1 6 1 b 1 23 1 1 1 2f 1",
    "2d 2 43 1 15 3 201 1 e2 1 95 5 405 6 1 2a 1 9 246 3 1 2 5 4 28 3 4 1 a5 2 23d 4 26 1 1a 5 1",
    "1 13b 2 4f 4 46 b 31 4 7b 1 36 f 29 1 2 2 a 3 31 4 2 2 2 1 4 1 a 1 32 3 24 5 1 8 3e 1 c 2 34",
    "9 a 4 2 1 5f 3 2 1 1 2 6 1 2 1 9d 1 3 8 15 2 39 2 3 1 25 7 3 5 46 6 d 1 1 1 1 1 e 2 55 8 2 3",
    "1 1 17 1 54 6 1 1 4 2 1 2 ee 4 6 2 1 2 1b 2 55 8 2 1 1 2 6a 1 1 1 2 6 1 1 65 3 2 4 1 5 103 9",
    "1 2 100 2 1 1 4 1 90 4 2 2 4 1 20 a 28 6 2 4 8 1 9 6 2 3 2e d 1 2 196 7 1 6 1 1 52 16 2 7 1",
    "2 1 2 7a 6 3 1 1 2 1 7 1 1 48 2 3 1 1 1 15b 2 b 2 34 5 5 1 1 1 17 1 14d5 11 6 f 2cc8 c 3 3",
    "9c0 5 3b 7 9 4 1fc 3 28 2 1e2 1 3f 11 40 2 1 2 400b 4 1 7 1 2 c9e 2 1 4 125c 2e 2 17 220 3 9",
    "10 2 7 1e 4 94 3 7bb 37 4 32 8 1 e 1 16 5 1 f 550 7 1 11 2 7 1 2 1 5 5 3e 21 1 a0 e 170 1 3d",
    "4 1fb 5 fe 2 2e0 7 6d 8 aaf 5 c0c01 1 1e 60 80 f0"]

/-- Rows `gap.count.step.target`: `count` characters, `step` apart, whose lower cases start at `target`. -/
def lowerRows : List (List Nat) := rows
  [
    "41.1a.1.61 7f.17.1.e0 18.7.1.f8 28.18.2.101 32.3.2.133 7.8.2.13a 11.17.2.14b 2e.1.1.ff",
    "1.3.2.17a 8.1.1.253 1.2.2.183 4.1.1.254 1.1.1.188 2.2.1.256 2.1.1.18c 3.1.1.1dd 1.1.1.259",
    "1.1.1.25b 1.1.1.192 2.1.1.260 1.1.1.263 2.1.1.269 1.1.1.268 1.1.1.199 4.1.1.26f 1.1.1.272",
    "2.1.1.275 1.3.2.1a1 6.1.1.280 1.1.1.1a8 2.1.1.283 3.1.1.1ad 2.1.1.288 1.1.1.1b0 2.2.1.28a",
    "2.2.2.1b4 4.1.1.292 1.1.1.1b9 4.1.1.1bd 8.1.1.1c6 1.1.1.1c6 2.1.1.1c9 1.1.1.1c9 2.1.1.1cc",
    "1.9.2.1cc 13.9.2.1df 13.1.1.1f3 1.2.2.1f3 4.1.1.195 1.1.1.1bf 1.14.2.1f9 28.1.1.19e",
    "2.9.2.223 18.1.1.2c65 1.1.1.23c 2.1.1.19a 1.1.1.2c66 3.1.1.242 2.1.1.180 1.1.1.289 1.1.1.28c",
    "1.5.2.247 12a.2.2.371 6.1.1.377 9.1.1.3f3 7.1.1.3ac 2.3.1.3ad 4.1.1.3cc 2.2.1.3cd 3.11.1.3b1",
    "12.9.1.3c3 2c.1.1.3d7 9.c.2.3d9 1c.1.1.3b8 3.1.1.3f8 2.1.1.3f2 1.1.1.3fb 3.3.1.37b",
    "3.10.1.450 10.20.1.430 50.11.2.461 2a.1b.2.48b 36.1.1.4cf 1.7.2.4c2 f.30.2.4d1 61.26.1.561",
    "b6f.26.1.2d00 27.1.1.2d27 6.1.1.2d2d 2d3.50.1.ab70 50.6.1.13f8 899.1.1.1c8a 7.2b.1.10d0",
    "2d.3.1.10fd 143.4b.2.1e01 9e.1.1.df 2.30.2.1ea1 68.8.1.1f00 10.6.1.1f10 10.8.1.1f20",
    "10.8.1.1f30 10.6.1.1f40 11.4.2.1f51 f.8.1.1f60 20.8.1.1f80 10.8.1.1f90 10.8.1.1fa0",
    "10.2.1.1fb0 2.2.1.1f70 2.1.1.1fb3 c.4.1.1f72 4.1.1.1fc3 c.2.1.1fd0 2.2.1.1f76 e.2.1.1fe0",
    "2.2.1.1f7a 2.1.1.1fe5 c.2.1.1f78 2.2.1.1f7c 2.1.1.1ff3 12a.1.1.3c9 4.1.1.6b 1.1.1.e5",
    "7.1.1.214e 2e.10.1.2170 23.1.1.2184 333.1a.1.24d0 74a.30.1.2c30 60.1.1.2c61 2.1.1.26b",
    "1.1.1.1d7d 1.1.1.27d 3.3.2.2c68 6.1.1.251 1.1.1.271 1.1.1.250 1.1.1.252 2.1.1.2c73",
    "3.1.1.2c76 9.2.1.23f 2.32.2.2c81 6b.2.2.2cec 7.1.1.2cf3 794e.17.2.a641 40.e.2.a681",
    "a2.7.2.a723 10.1f.2.a733 47.2.2.a77a 4.1.1.1d79 1.5.2.a77f d.1.1.a78c 2.1.1.265 3.2.2.a791",
    "6.a.2.a797 14.1.1.266 1.1.1.25c 1.1.1.261 1.1.1.26c 1.1.1.26a 2.1.1.29e 1.1.1.287 1.1.1.29d",
    "1.1.1.ab53 1.8.2.a7b5 10.1.1.a794 1.1.1.282 1.1.1.1d8e 1.2.2.a7c8 4.1.1.264 1.1.1.a7cd",
    "4.1.1.a7d1 6.3.2.a7d7 6.1.1.19b 19.1.1.a7f6 572c.1a.1.ff41 4df.28.1.10428 b0.24.1.104d8",
    "c0.b.1.10597 c.f.1.105a3 10.7.1.105b3 8.2.1.105bb 6ec.33.1.10cc0 d0.16.1.10d70",
    "b50.20.1.118c0 55a0.20.1.16e60 7ac0.22.1.1e922"]

end Kasten.Text.Table
