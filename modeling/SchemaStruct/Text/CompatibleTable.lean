/-!
# Tables of Compatible Characters

For the characters of identifiers, what version 14 of the Unicode character database says about
their compatible forms: the characters that make them up, and the classes in whose order marks
follow a letter. Syllables of Hangul are left out, as they follow from their number.
-/

namespace SchemaStruct.Text

/-- Rows of neighbouring characters: the first code point, then for each character the code points
in base 16 that make it up, with hyphens between them. -/
def compatibleRows : List (Nat × String) := [
  (0xAA, "61"), (0xB5, "3bc"), (0xBA, "6f"),
  (0xC0, "41-300 41-301 41-302 41-303 41-308 41-30a c6 43-327 45-300 45-301 45-302 45-308"),
  (0xCC, "49-300 49-301 49-302 49-308 d0 4e-303 4f-300 4f-301 4f-302 4f-303 4f-308"),
  (0xD9, "55-300 55-301 55-302 55-308 59-301 de df 61-300 61-301 61-302 61-303 61-308"),
  (0xE5, "61-30a e6 63-327 65-300 65-301 65-302 65-308 69-300 69-301 69-302 69-308"),
  (0xF1, "6e-303 6f-300 6f-301 6f-302 6f-303 6f-308 f7 f8 75-300 75-301 75-302 75-308"),
  (0xFD, "79-301 fe 79-308 41-304 61-304 41-306 61-306 41-328 61-328 43-301 63-301 43-302"),
  (0x109, "63-302 43-307 63-307 43-30c 63-30c 44-30c 64-30c 110 111 45-304 65-304 45-306"),
  (0x115, "65-306 45-307 65-307 45-328 65-328 45-30c 65-30c 47-302 67-302 47-306 67-306"),
  (0x120, "47-307 67-307 47-327 67-327 48-302 68-302 126 127 49-303 69-303 49-304 69-304"),
  (0x12C, "49-306 69-306 49-328 69-328 49-307 131 49-4a 69-6a 4a-302 6a-302 4b-327 6b-327"),
  (0x139, "4c-301 6c-301 4c-327 6c-327 4c-30c 6c-30c 4c-b7 6c-b7 141 142 4e-301 6e-301"),
  (0x145, "4e-327 6e-327 4e-30c 6e-30c 2bc-6e 14a 14b 4f-304 6f-304 4f-306 6f-306 4f-30b"),
  (0x151, "6f-30b 152 153 52-301 72-301 52-327 72-327 52-30c 72-30c 53-301 73-301 53-302"),
  (0x15D, "73-302 53-327 73-327 53-30c 73-30c 54-327 74-327 54-30c 74-30c 166 167 55-303"),
  (0x169, "75-303 55-304 75-304 55-306 75-306 55-30a 75-30a 55-30b 75-30b 55-328 75-328"),
  (0x174, "57-302 77-302 59-302 79-302 59-308 5a-301 7a-301 5a-307 7a-307 5a-30c 7a-30c 73"),
  (0x1A0, "4f-31b 6f-31b"), (0x1AF, "55-31b 75-31b"),
  (0x1C4, "44-5a-30c 44-7a-30c 64-7a-30c 4c-4a 4c-6a 6c-6a 4e-4a 4e-6a 6e-6a 41-30c 61-30c"),
  (0x1CF, "49-30c 69-30c 4f-30c 6f-30c 55-30c 75-30c 55-308-304 75-308-304 55-308-301"),
  (0x1D8, "75-308-301 55-308-30c 75-308-30c 55-308-300 75-308-300 1dd 41-308-304 61-308-304"),
  (0x1E0, "41-307-304 61-307-304 c6-304 e6-304 1e4 1e5 47-30c 67-30c 4b-30c 6b-30c 4f-328"),
  (0x1EB, "6f-328 4f-328-304 6f-328-304 1b7-30c 292-30c 6a-30c 44-5a 44-7a 64-7a 47-301"),
  (0x1F5, "67-301 1f6 1f7 4e-300 6e-300 41-30a-301 61-30a-301 c6-301 e6-301 d8-301 f8-301"),
  (0x200, "41-30f 61-30f 41-311 61-311 45-30f 65-30f 45-311 65-311 49-30f 69-30f 49-311"),
  (0x20B, "69-311 4f-30f 6f-30f 4f-311 6f-311 52-30f 72-30f 52-311 72-311 55-30f 75-30f"),
  (0x216, "55-311 75-311 53-326 73-326 54-326 74-326 21c 21d 48-30c 68-30c"),
  (0x226, "41-307 61-307 45-327 65-327 4f-308-304 6f-308-304 4f-303-304 6f-303-304 4f-307"),
  (0x22F, "6f-307 4f-307-304 6f-307-304 59-304 79-304"), (0x2B0, "68 266 6a 72 279 27b 281 77 79"),
  (0x2E0, "263 6c 73 78 295"), (0x340, "300 301 342 313 308-301"), (0x374, "2b9"),
  (0x386, "391-301 b7 395-301 397-301 399-301 38b 39f-301 38d 3a5-301 3a9-301 3b9-308-301"),
  (0x3AA, "399-308 3a5-308 3b1-301 3b5-301 3b7-301 3b9-301 3c5-308-301"),
  (0x3CA, "3b9-308 3c5-308 3bf-301 3c5-301 3c9-301 3cf 3b2 3b8 3a5 3a5-301 3a5-308 3c6 3c0"),
  (0x3F0, "3ba 3c1 3c2 3f3 398 3b5 3f6 3f7 3f8 3a3"),
  (0x400, "415-300 415-308 402 413-301 404 405 406 406-308"), (0x40C, "41a-301 418-300 423-306"),
  (0x419, "418-306"), (0x439, "438-306"),
  (0x450, "435-300 435-308 452 433-301 454 455 456 456-308"), (0x45C, "43a-301 438-300 443-306"),
  (0x476, "474-30f 475-30f"), (0x4C1, "416-306 436-306"),
  (0x4D0, "410-306 430-306 410-308 430-308 4d4 4d5 415-306 435-306 4d8 4d9 4d8-308 4d9-308"),
  (0x4DC, "416-308 436-308 417-308 437-308 4e0 4e1 418-304 438-304 418-308 438-308 41e-308"),
  (0x4E7, "43e-308 4e8 4e9 4e8-308 4e9-308 42d-308 44d-308 423-304 443-304 423-308 443-308"),
  (0x4F2, "423-30b 443-30b 427-308 447-308 4f6 4f7 42b-308 44b-308"), (0x587, "565-582"),
  (0x622, "627-653 627-654 648-654 627-655 64a-654"), (0x675, "627-674 648-674 6c7-674 64a-674"),
  (0x6C0, "6d5-654 6c1 6c1-654"), (0x6D3, "6d2-654"), (0x929, "928-93c"),
  (0x931, "930-93c 932 933 933-93c"),
  (0x958, "915-93c 916-93c 917-93c 91c-93c 921-93c 922-93c 92b-93c 92f-93c"),
  (0x9CB, "9c7-9be 9c7-9d7"), (0x9DC, "9a1-9bc 9a2-9bc 9de 9af-9bc"),
  (0xA33, "a32-a3c a34 a35 a38-a3c"), (0xA59, "a16-a3c a17-a3c a1c-a3c a5c a5d a2b-a3c"),
  (0xB48, "b47-b56 b49 b4a b47-b3e b47-b57"), (0xB5C, "b21-b3c b22-b3c"), (0xB94, "b92-bd7"),
  (0xBCA, "bc6-bbe bc7-bbe bc6-bd7"), (0xC48, "c46-c56"), (0xCC0, "cbf-cd5"),
  (0xCC7, "cc6-cd5 cc6-cd6 cc9 cc6-cc2 cc6-cc2-cd5"), (0xD4A, "d46-d3e d47-d3e d46-d57"),
  (0xDDA, "dd9-dca ddb dd9-dcf dd9-dcf-dca dd9-ddf"), (0xE33, "e4d-e32"), (0xEB3, "ecd-eb2"),
  (0xEDC, "eab-e99 eab-ea1"), (0xF43, "f42-fb7"), (0xF4D, "f4c-fb7"), (0xF52, "f51-fb7"),
  (0xF57, "f56-fb7"), (0xF5C, "f5b-fb7"), (0xF69, "f40-fb5"),
  (0xF73, "f71-f72 f74 f71-f74 fb2-f80 fb2-f71-f80 fb3-f80 fb3-f71-f80"), (0xF81, "f71-f80"),
  (0xF93, "f92-fb7"), (0xF9D, "f9c-fb7"), (0xFA2, "fa1-fb7"), (0xFA7, "fa6-fb7"),
  (0xFAC, "fab-fb7"), (0xFB9, "f90-fb5"), (0x1026, "1025-102e"), (0x10FC, "10dc"),
  (0x1B06, "1b05-1b35 1b07 1b07-1b35 1b09 1b09-1b35 1b0b 1b0b-1b35 1b0d 1b0d-1b35"),
  (0x1B12, "1b11-1b35"),
  (0x1B3B, "1b3a-1b35 1b3c 1b3c-1b35 1b3e 1b3f 1b3e-1b35 1b3f-1b35 1b42 1b42-1b35"),
  (0x1D2C, "41 c6 42 1d2f 44 45 18e 47 48 49 4a 4b 4c 4d 4e 1d3b 4f 222 50 52 54 55 57 61"),
  (0x1D44, "250 251 1d02 62 64 65 259 25b 25c 67 1d4e 6b 6d 14b 6f 254 1d16 1d17 70 74 75"),
  (0x1D59, "1d1d 26f 76 1d25 3b2 3b3 3b4 3c6 3c7 69 72 75 76 3b2 3b3 3c1 3c6 3c7"),
  (0x1D78, "43d"),
  (0x1D9B, "252 63 255 f0 25c 66 25f 261 265 268 269 26a 1d7b 29d 26d 1d85 29f 271 270 272"),
  (0x1DAF, "273 274 275 278 282 283 1ab 289 28a 1d1c 28b 28c 7a 290 291 292 3b8"),
  (0x1E00, "41-325 61-325 42-307 62-307 42-323 62-323 42-331 62-331 43-327-301 63-327-301"),
  (0x1E0A, "44-307 64-307 44-323 64-323 44-331 64-331 44-327 64-327 44-32d 64-32d 45-304-300"),
  (0x1E15, "65-304-300 45-304-301 65-304-301 45-32d 65-32d 45-330 65-330 45-327-306"),
  (0x1E1D, "65-327-306 46-307 66-307 47-304 67-304 48-307 68-307 48-323 68-323 48-308 68-308"),
  (0x1E28, "48-327 68-327 48-32e 68-32e 49-330 69-330 49-308-301 69-308-301 4b-301 6b-301"),
  (0x1E32, "4b-323 6b-323 4b-331 6b-331 4c-323 6c-323 4c-323-304 6c-323-304 4c-331 6c-331"),
  (0x1E3C, "4c-32d 6c-32d 4d-301 6d-301 4d-307 6d-307 4d-323 6d-323 4e-307 6e-307 4e-323"),
  (0x1E47, "6e-323 4e-331 6e-331 4e-32d 6e-32d 4f-303-301 6f-303-301 4f-303-308 6f-303-308"),
  (0x1E50, "4f-304-300 6f-304-300 4f-304-301 6f-304-301 50-301 70-301 50-307 70-307 52-307"),
  (0x1E59, "72-307 52-323 72-323 52-323-304 72-323-304 52-331 72-331 53-307 73-307 53-323"),
  (0x1E63, "73-323 53-301-307 73-301-307 53-30c-307 73-30c-307 53-323-307 73-323-307 54-307"),
  (0x1E6B, "74-307 54-323 74-323 54-331 74-331 54-32d 74-32d 55-324 75-324 55-330 75-330"),
  (0x1E76, "55-32d 75-32d 55-303-301 75-303-301 55-304-308 75-304-308 56-303 76-303 56-323"),
  (0x1E7F, "76-323 57-300 77-300 57-301 77-301 57-308 77-308 57-307 77-307 57-323 77-323"),
  (0x1E8A, "58-307 78-307 58-308 78-308 59-307 79-307 5a-302 7a-302 5a-323 7a-323 5a-331"),
  (0x1E95, "7a-331 68-331 74-308 77-30a 79-30a 61-2be 73-307"),
  (0x1EA0, "41-323 61-323 41-309 61-309 41-302-301 61-302-301 41-302-300 61-302-300"),
  (0x1EA8, "41-302-309 61-302-309 41-302-303 61-302-303 41-323-302 61-323-302 41-306-301"),
  (0x1EAF, "61-306-301 41-306-300 61-306-300 41-306-309 61-306-309 41-306-303 61-306-303"),
  (0x1EB6, "41-323-306 61-323-306 45-323 65-323 45-309 65-309 45-303 65-303 45-302-301"),
  (0x1EBF, "65-302-301 45-302-300 65-302-300 45-302-309 65-302-309 45-302-303 65-302-303"),
  (0x1EC6, "45-323-302 65-323-302 49-309 69-309 49-323 69-323 4f-323 6f-323 4f-309 6f-309"),
  (0x1ED0, "4f-302-301 6f-302-301 4f-302-300 6f-302-300 4f-302-309 6f-302-309 4f-302-303"),
  (0x1ED7, "6f-302-303 4f-323-302 6f-323-302 4f-31b-301 6f-31b-301 4f-31b-300 6f-31b-300"),
  (0x1EDE, "4f-31b-309 6f-31b-309 4f-31b-303 6f-31b-303 4f-31b-323 6f-31b-323 55-323 75-323"),
  (0x1EE6, "55-309 75-309 55-31b-301 75-31b-301 55-31b-300 75-31b-300 55-31b-309 75-31b-309"),
  (0x1EEE, "55-31b-303 75-31b-303 55-31b-323 75-31b-323 59-300 79-300 59-323 79-323 59-309"),
  (0x1EF7, "79-309 59-303 79-303"),
  (0x1F00, "3b1-313 3b1-314 3b1-313-300 3b1-314-300 3b1-313-301 3b1-314-301 3b1-313-342"),
  (0x1F07, "3b1-314-342 391-313 391-314 391-313-300 391-314-300 391-313-301 391-314-301"),
  (0x1F0E, "391-313-342 391-314-342 3b5-313 3b5-314 3b5-313-300 3b5-314-300 3b5-313-301"),
  (0x1F15, "3b5-314-301 1f16 1f17 395-313 395-314 395-313-300 395-314-300 395-313-301"),
  (0x1F1D, "395-314-301 1f1e 1f1f 3b7-313 3b7-314 3b7-313-300 3b7-314-300 3b7-313-301"),
  (0x1F25, "3b7-314-301 3b7-313-342 3b7-314-342 397-313 397-314 397-313-300 397-314-300"),
  (0x1F2C, "397-313-301 397-314-301 397-313-342 397-314-342 3b9-313 3b9-314 3b9-313-300"),
  (0x1F33, "3b9-314-300 3b9-313-301 3b9-314-301 3b9-313-342 3b9-314-342 399-313 399-314"),
  (0x1F3A, "399-313-300 399-314-300 399-313-301 399-314-301 399-313-342 399-314-342 3bf-313"),
  (0x1F41, "3bf-314 3bf-313-300 3bf-314-300 3bf-313-301 3bf-314-301 1f46 1f47 39f-313"),
  (0x1F49, "39f-314 39f-313-300 39f-314-300 39f-313-301 39f-314-301 1f4e 1f4f 3c5-313"),
  (0x1F51, "3c5-314 3c5-313-300 3c5-314-300 3c5-313-301 3c5-314-301 3c5-313-342 3c5-314-342"),
  (0x1F59, "3a5-314 1f5a 3a5-314-300 1f5c 3a5-314-301 1f5e 3a5-314-342 3c9-313 3c9-314"),
  (0x1F62, "3c9-313-300 3c9-314-300 3c9-313-301 3c9-314-301 3c9-313-342 3c9-314-342 3a9-313"),
  (0x1F69, "3a9-314 3a9-313-300 3a9-314-300 3a9-313-301 3a9-314-301 3a9-313-342 3a9-314-342"),
  (0x1F70, "3b1-300 3b1-301 3b5-300 3b5-301 3b7-300 3b7-301 3b9-300 3b9-301 3bf-300 3bf-301"),
  (0x1F7A, "3c5-300 3c5-301 3c9-300 3c9-301 1f7e 1f7f 3b1-313-345 3b1-314-345"),
  (0x1F82, "3b1-313-300-345 3b1-314-300-345 3b1-313-301-345 3b1-314-301-345 3b1-313-342-345"),
  (0x1F87, "3b1-314-342-345 391-313-345 391-314-345 391-313-300-345 391-314-300-345"),
  (0x1F8C, "391-313-301-345 391-314-301-345 391-313-342-345 391-314-342-345 3b7-313-345"),
  (0x1F91, "3b7-314-345 3b7-313-300-345 3b7-314-300-345 3b7-313-301-345 3b7-314-301-345"),
  (0x1F96, "3b7-313-342-345 3b7-314-342-345 397-313-345 397-314-345 397-313-300-345"),
  (0x1F9B, "397-314-300-345 397-313-301-345 397-314-301-345 397-313-342-345 397-314-342-345"),
  (0x1FA0, "3c9-313-345 3c9-314-345 3c9-313-300-345 3c9-314-300-345 3c9-313-301-345"),
  (0x1FA5, "3c9-314-301-345 3c9-313-342-345 3c9-314-342-345 3a9-313-345 3a9-314-345"),
  (0x1FAA, "3a9-313-300-345 3a9-314-300-345 3a9-313-301-345 3a9-314-301-345 3a9-313-342-345"),
  (0x1FAF, "3a9-314-342-345 3b1-306 3b1-304 3b1-300-345 3b1-345 3b1-301-345 1fb5 3b1-342"),
  (0x1FB7, "3b1-342-345 391-306 391-304 391-300 391-301 391-345 1fbd 3b9"),
  (0x1FC2, "3b7-300-345 3b7-345 3b7-301-345 1fc5 3b7-342 3b7-342-345 395-300 395-301 397-300"),
  (0x1FCB, "397-301 397-345 1fcd 1fce 1fcf 3b9-306 3b9-304 3b9-308-300 3b9-308-301"),
  (0x1FD6, "3b9-342 3b9-308-342 399-306 399-304 399-300 399-301"),
  (0x1FE0, "3c5-306 3c5-304 3c5-308-300 3c5-308-301 3c1-313 3c1-314 3c5-342 3c5-308-342"),
  (0x1FE8, "3a5-306 3a5-304 3a5-300 3a5-301 3a1-314"),
  (0x1FF2, "3c9-300-345 3c9-345 3c9-301-345 1ff5 3c9-342 3c9-342-345 39f-300 39f-301 3a9-300"),
  (0x1FFB, "3a9-301 3a9-345"), (0x2071, "69"), (0x207F, "6e"),
  (0x2090, "61 65 6f 78 259 68 6b 6c 6d 6e 70 73 74"), (0x2102, "43"),
  (0x2107, "190 2108 2109 67 48 48 48 68 127 49 49 4c 6c 2114 4e 2116 2117 2118 50 51 52 52"),
  (0x211D, "52"),
  (0x2124, "5a 2125 3a9 2127 5a 2129 4b 41-30a 42 43 212e 65 45 46 2132 4d 6f 5d0 5d1 5d2"),
  (0x2138, "5d3 69 213a 213b 3c0 3b3 393 3a0"), (0x2145, "44 64 65 69 6a"),
  (0x2160, "49 49-49 49-49-49 49-56 56 56-49 56-49-49 56-49-49-49 49-58 58 58-49 58-49-49 4c"),
  (0x216D, "43 44 4d 69 69-69 69-69-69 69-76 76 76-69 76-69-69 76-69-69-69 69-78 78 78-69"),
  (0x217B, "78-69-69 6c 63 64 6d"), (0x2C7C, "6a 56"), (0x2D6F, "2d61"),
  (0x3038, "5341 5344 5345"),
  (0x304C, "304b-3099 304d 304d-3099 304f 304f-3099 3051 3051-3099 3053 3053-3099"),
  (0x3056, "3055-3099 3057 3057-3099 3059 3059-3099 305b 305b-3099 305d 305d-3099"),
  (0x3060, "305f-3099 3061 3061-3099 3063 3064 3064-3099 3066 3066-3099 3068 3068-3099"),
  (0x3070, "306f-3099 306f-309a 3072 3072-3099 3072-309a 3075 3075-3099 3075-309a"),
  (0x3079, "3078-3099 3078-309a 307b 307b-3099 307b-309a"), (0x3094, "3046-3099"),
  (0x309E, "309d-3099 3088-308a"),
  (0x30AC, "30ab-3099 30ad 30ad-3099 30af 30af-3099 30b1 30b1-3099 30b3 30b3-3099"),
  (0x30B6, "30b5-3099 30b7 30b7-3099 30b9 30b9-3099 30bb 30bb-3099 30bd 30bd-3099"),
  (0x30C0, "30bf-3099 30c1 30c1-3099 30c3 30c4 30c4-3099 30c6 30c6-3099 30c8 30c8-3099"),
  (0x30D0, "30cf-3099 30cf-309a 30d2 30d2-3099 30d2-309a 30d5 30d5-3099 30d5-309a"),
  (0x30D9, "30d8-3099 30d8-309a 30db 30db-3099 30db-309a"),
  (0x30F4, "30a6-3099 30f5 30f6 30ef-3099 30f0-3099 30f1-3099 30f2-3099"),
  (0x30FE, "30fd-3099 30b3-30c8"),
  (0x3131, "1100 1101 11aa 1102 11ac 11ad 1103 1104 1105 11b0 11b1 11b2 11b3 11b4 11b5 111a"),
  (0x3141, "1106 1107 1108 1121 1109 110a 110b 110c 110d 110e 110f 1110 1111 1112 1161 1162"),
  (0x3151, "1163 1164 1165 1166 1167 1168 1169 116a 116b 116c 116d 116e 116f 1170 1171 1172"),
  (0x3161, "1173 1174 1175 1160 1114 1115 11c7 11c8 11cc 11ce 11d3 11d7 11d9 111c 11dd 11df"),
  (0x3171, "111d 111e 1120 1122 1123 1127 1129 112b 112c 112d 112e 112f 1132 1136 1140 1147"),
  (0x3181, "114c 11f1 11f2 1157 1158 1159 1184 1185 1188 1191 1192 1194 119e 11a1"),
  (0xA69C, "44a 44c"), (0xA770, "a76f"), (0xA7F2, "43 46 51 a7f5 a7f6 a7f7 126 153"),
  (0xAB5C, "a727 ab37 26b ab52"), (0xAB69, "28d"),
  (0xF900, "8c48 66f4 8eca 8cc8 6ed1 4e32 53e5 9f9c 9f9c 5951 91d1 5587 5948 61f6 7669 7f85"),
  (0xF910, "863f 87ba 88f8 908f 6a02 6d1b 70d9 73de 843d 916a 99f1 4e82 5375 6b04 721b 862d"),
  (0xF920, "9e1e 5d50 6feb 85cd 8964 62c9 81d8 881f 5eca 6717 6d6a 72fc 90ce 4f86 51b7 52de"),
  (0xF930, "64c4 6ad3 7210 76e7 8001 8606 865c 8def 9732 9b6f 9dfa 788c 797f 7da0 83c9 9304"),
  (0xF940, "9e7f 8ad6 58df 5f04 7c60 807e 7262 78ca 8cc2 96f7 58d8 5c62 6a13 6dda 6f0f 7d2f"),
  (0xF950, "7e37 964b 52d2 808b 51dc 51cc 7a1c 7dbe 83f1 9675 8b80 62cf 6a02 8afe 4e39 5be7"),
  (0xF960, "6012 7387 7570 5317 78fb 4fbf 5fa9 4e0d 6ccc 6578 7d22 53c3 585e 7701 8449 8aaa"),
  (0xF970, "6bba 8fb0 6c88 62fe 82e5 63a0 7565 4eae 5169 51c9 6881 7ce7 826f 8ad2 91cf 52f5"),
  (0xF980, "5442 5973 5eec 65c5 6ffe 792a 95ad 9a6a 9e97 9ece 529b 66c6 6b77 8f62 5e74 6190"),
  (0xF990, "6200 649a 6f23 7149 7489 79ca 7df4 806f 8f26 84ee 9023 934a 5217 52a3 54bd 70c8"),
  (0xF9A0, "88c2 8aaa 5ec9 5ff5 637b 6bae 7c3e 7375 4ee4 56f9 5be7 5dba 601c 73b2 7469 7f9a"),
  (0xF9B0, "8046 9234 96f6 9748 9818 4f8b 79ae 91b4 96b8 60e1 4e86 50da 5bee 5c3f 6599 6a02"),
  (0xF9C0, "71ce 7642 84fc 907c 9f8d 6688 962e 5289 677b 67f3 6d41 6e9c 7409 7559 786b 7d10"),
  (0xF9D0, "985e 516d 622e 9678 502b 5d19 6dea 8f2a 5f8b 6144 6817 7387 9686 5229 540f 5c65"),
  (0xF9E0, "6613 674e 68a8 6ce5 7406 75e2 7f79 88cf 88e1 91cc 96e2 533f 6eba 541d 71d0 7498"),
  (0xF9F0, "85fa 96a3 9c57 9e9f 6797 6dcb 81e8 7acb 7b20 7c92 72c0 7099 8b58 4ec0 8336 523a"),
  (0xFA00, "5207 5ea6 62d3 7cd6 5b85 6d1e 66b4 8f3b 884c 964d 898b 5ed3 5140 55c0"),
  (0xFA10, "585a fa11 6674 fa13 fa14 51de 732a 76ca 793c 795e 7965 798f 9756 7cbe 7fbd"),
  (0xFA20, "8612 fa21 8af8 fa23 fa24 9038 90fd fa27 fa28 fa29 98ef 98fc 9928 9db4 90de 96b7"),
  (0xFA30, "4fae 50e7 514d 52c9 52e4 5351 559d 5606 5668 5840 58a8 5c64 5c6e 6094 6168 618e"),
  (0xFA40, "61f2 654f 65e2 6691 6885 6d77 6e1a 6f22 716e 722b 7422 7891 793e 7949 7948 7950"),
  (0xFA50, "7956 795d 798d 798e 7a40 7a81 7bc0 7df4 7e09 7e41 7f72 8005 81ed 8279 8279 8457"),
  (0xFA60, "8910 8996 8b01 8b39 8cd3 8d08 8fb6 9038 96e3 97ff 983b 6075 242ee 8218"),
  (0xFA70, "4e26 51b5 5168 4f80 5145 5180 52c7 52fa 559d 5555 5599 55e2 585a 58b3 5944 5954"),
  (0xFA80, "5a62 5b28 5ed2 5ed9 5f69 5fad 60d8 614e 6108 618e 6160 61f2 6234 63c4 641c 6452"),
  (0xFA90, "6556 6674 6717 671b 6756 6b79 6bba 6d41 6edb 6ecb 6f22 701e 716e 77a7 7235 72af"),
  (0xFAA0, "732a 7471 7506 753b 761d 761f 76ca 76db 76f4 774a 7740 78cc 7ab1 7bc0 7c7b 7d5b"),
  (0xFAB0, "7df4 7f3e 8005 8352 83ef 8779 8941 8986 8996 8abf 8af8 8acb 8b01 8afe 8aed 8b39"),
  (0xFAC0, "8b8a 8d08 8f38 9072 9199 9276 967c 96e3 9756 97db 97ff 980b 983b 9b12 9f9c 2284a"),
  (0xFAD0, "22844 233d5 3b9d 4018 4039 25249 25cd0 27ed3 9f43 9f8e"),
  (0xFB00, "66-66 66-69 66-6c 66-66-69 66-66-6c 73-74 73-74"),
  (0xFB13, "574-576 574-565 574-56b 57e-576 574-56d"),
  (0xFB1D, "5d9-5b4 fb1e 5f2-5b7 5e2 5d0 5d3 5d4 5db 5dc 5dd 5e8 5ea fb29 5e9-5c1 5e9-5c2"),
  (0xFB2C, "5e9-5bc-5c1 5e9-5bc-5c2 5d0-5b7 5d0-5b8 5d0-5bc 5d1-5bc 5d2-5bc 5d3-5bc 5d4-5bc"),
  (0xFB35, "5d5-5bc 5d6-5bc fb37 5d8-5bc 5d9-5bc 5da-5bc 5db-5bc 5dc-5bc fb3d 5de-5bc"),
  (0xFB40, "5e0-5bc 5e1-5bc fb42 5e3-5bc 5e4-5bc fb45 5e6-5bc 5e7-5bc 5e8-5bc 5e9-5bc"),
  (0xFB4A, "5ea-5bc 5d5-5b9 5d1-5bf 5db-5bf 5e4-5bf 5d0-5dc 671 671 67b 67b 67b 67b 67e 67e"),
  (0xFB58, "67e 67e 680 680 680 680 67a 67a 67a 67a 67f 67f 67f 67f 679 679 679 679 6a4 6a4"),
  (0xFB6C, "6a4 6a4 6a6 6a6 6a6 6a6 684 684 684 684 683 683 683 683 686 686 686 686 687 687"),
  (0xFB80, "687 687 68d 68d 68c 68c 68e 68e 688 688 698 698 691 691 6a9 6a9 6a9 6a9 6af 6af"),
  (0xFB94, "6af 6af 6b3 6b3 6b3 6b3 6b1 6b1 6b1 6b1 6ba 6ba 6bb 6bb 6bb 6bb 6d5-654 6d5-654"),
  (0xFBA6, "6c1 6c1 6c1 6c1 6be 6be 6be 6be 6d2 6d2 6d2-654 6d2-654"),
  (0xFBD3, "6ad 6ad 6ad 6ad 6c7 6c7 6c6 6c6 6c8 6c8 6c7-674 6cb 6cb 6c5 6c5 6c9 6c9 6d0 6d0"),
  (0xFBE6, "6d0 6d0 649 649 64a-654-627 64a-654-627 64a-654-6d5 64a-654-6d5 64a-654-648"),
  (0xFBEF, "64a-654-648 64a-654-6c7 64a-654-6c7 64a-654-6c6 64a-654-6c6 64a-654-6c8"),
  (0xFBF5, "64a-654-6c8 64a-654-6d0 64a-654-6d0 64a-654-6d0 64a-654-649 64a-654-649"),
  (0xFBFB, "64a-654-649 6cc 6cc 6cc 6cc 64a-654-62c 64a-654-62d 64a-654-645 64a-654-649"),
  (0xFC04, "64a-654-64a 628-62c 628-62d 628-62e 628-645 628-649 628-64a 62a-62c 62a-62d"),
  (0xFC0D, "62a-62e 62a-645 62a-649 62a-64a 62b-62c 62b-645 62b-649 62b-64a 62c-62d 62c-645"),
  (0xFC17, "62d-62c 62d-645 62e-62c 62e-62d 62e-645 633-62c 633-62d 633-62e 633-645 635-62d"),
  (0xFC21, "635-645 636-62c 636-62d 636-62e 636-645 637-62d 637-645 638-645 639-62c 639-645"),
  (0xFC2B, "63a-62c 63a-645 641-62c 641-62d 641-62e 641-645 641-649 641-64a 642-62d 642-645"),
  (0xFC35, "642-649 642-64a 643-627 643-62c 643-62d 643-62e 643-644 643-645 643-649 643-64a"),
  (0xFC3F, "644-62c 644-62d 644-62e 644-645 644-649 644-64a 645-62c 645-62d 645-62e 645-645"),
  (0xFC49, "645-649 645-64a 646-62c 646-62d 646-62e 646-645 646-649 646-64a 647-62c 647-645"),
  (0xFC53, "647-649 647-64a 64a-62c 64a-62d 64a-62e 64a-645 64a-649 64a-64a 630-670 631-670"),
  (0xFC5D, "649-670"),
  (0xFC64, "64a-654-631 64a-654-632 64a-654-645 64a-654-646 64a-654-649 64a-654-64a 628-631"),
  (0xFC6B, "628-632 628-645 628-646 628-649 628-64a 62a-631 62a-632 62a-645 62a-646 62a-649"),
  (0xFC75, "62a-64a 62b-631 62b-632 62b-645 62b-646 62b-649 62b-64a 641-649 641-64a 642-649"),
  (0xFC7F, "642-64a 643-627 643-644 643-645 643-649 643-64a 644-645 644-649 644-64a 645-627"),
  (0xFC89, "645-645 646-631 646-632 646-645 646-646 646-649 646-64a 649-670 64a-631 64a-632"),
  (0xFC93, "64a-645 64a-646 64a-649 64a-64a 64a-654-62c 64a-654-62d 64a-654-62e 64a-654-645"),
  (0xFC9B, "64a-654-647 628-62c 628-62d 628-62e 628-645 628-647 62a-62c 62a-62d 62a-62e"),
  (0xFCA4, "62a-645 62a-647 62b-645 62c-62d 62c-645 62d-62c 62d-645 62e-62c 62e-645 633-62c"),
  (0xFCAE, "633-62d 633-62e 633-645 635-62d 635-62e 635-645 636-62c 636-62d 636-62e 636-645"),
  (0xFCB8, "637-62d 638-645 639-62c 639-645 63a-62c 63a-645 641-62c 641-62d 641-62e 641-645"),
  (0xFCC2, "642-62d 642-645 643-62c 643-62d 643-62e 643-644 643-645 644-62c 644-62d 644-62e"),
  (0xFCCC, "644-645 644-647 645-62c 645-62d 645-62e 645-645 646-62c 646-62d 646-62e 646-645"),
  (0xFCD6, "646-647 647-62c 647-645 647-670 64a-62c 64a-62d 64a-62e 64a-645 64a-647"),
  (0xFCDF, "64a-654-645 64a-654-647 628-645 628-647 62a-645 62a-647 62b-645 62b-647 633-645"),
  (0xFCE8, "633-647 634-645 634-647 643-644 643-645 644-645 646-645 646-647 64a-645 64a-647"),
  (0xFCF2, "640-64e-651 640-64f-651 640-650-651 637-649 637-64a 639-649 639-64a 63a-649"),
  (0xFCFA, "63a-64a 633-649 633-64a 634-649 634-64a 62d-649 62d-64a 62c-649 62c-64a 62e-649"),
  (0xFD04, "62e-64a 635-649 635-64a 636-649 636-64a 634-62c 634-62d 634-62e 634-645 634-631"),
  (0xFD0E, "633-631 635-631 636-631 637-649 637-64a 639-649 639-64a 63a-649 63a-64a 633-649"),
  (0xFD18, "633-64a 634-649 634-64a 62d-649 62d-64a 62c-649 62c-64a 62e-649 62e-64a 635-649"),
  (0xFD22, "635-64a 636-649 636-64a 634-62c 634-62d 634-62e 634-645 634-631 633-631 635-631"),
  (0xFD2C, "636-631 634-62c 634-62d 634-62e 634-645 633-647 634-647 637-645 633-62c 633-62d"),
  (0xFD36, "633-62e 634-62c 634-62d 634-62e 637-645 638-645 627-64b 627-64b"),
  (0xFD50, "62a-62c-645 62a-62d-62c 62a-62d-62c 62a-62d-645 62a-62e-645 62a-645-62c"),
  (0xFD56, "62a-645-62d 62a-645-62e 62c-645-62d 62c-645-62d 62d-645-64a 62d-645-649"),
  (0xFD5C, "633-62d-62c 633-62c-62d 633-62c-649 633-645-62d 633-645-62d 633-645-62c"),
  (0xFD62, "633-645-645 633-645-645 635-62d-62d 635-62d-62d 635-645-645 634-62d-645"),
  (0xFD68, "634-62d-645 634-62c-64a 634-645-62e 634-645-62e 634-645-645 634-645-645"),
  (0xFD6E, "636-62d-649 636-62e-645 636-62e-645 637-645-62d 637-645-62d 637-645-645"),
  (0xFD74, "637-645-64a 639-62c-645 639-645-645 639-645-645 639-645-649 63a-645-645"),
  (0xFD7A, "63a-645-64a 63a-645-649 641-62e-645 641-62e-645 642-645-62d 642-645-645"),
  (0xFD80, "644-62d-645 644-62d-64a 644-62d-649 644-62c-62c 644-62c-62c 644-62e-645"),
  (0xFD86, "644-62e-645 644-645-62d 644-645-62d 645-62d-62c 645-62d-645 645-62d-64a"),
  (0xFD8C, "645-62c-62d 645-62c-645 645-62e-62c 645-62e-645 fd90 fd91 645-62c-62e"),
  (0xFD93, "647-645-62c 647-645-645 646-62d-645 646-62d-649 646-62c-645 646-62c-645"),
  (0xFD99, "646-62c-649 646-645-64a 646-645-649 64a-645-645 64a-645-645 628-62e-64a"),
  (0xFD9F, "62a-62c-64a 62a-62c-649 62a-62e-64a 62a-62e-649 62a-645-64a 62a-645-649"),
  (0xFDA5, "62c-645-64a 62c-62d-649 62c-645-649 633-62e-649 635-62d-64a 634-62d-64a"),
  (0xFDAB, "636-62d-64a 644-62c-64a 644-645-64a 64a-62d-64a 64a-62c-64a 64a-645-64a"),
  (0xFDB1, "645-645-64a 642-645-64a 646-62d-64a 642-645-62d 644-62d-645 639-645-64a"),
  (0xFDB7, "643-645-64a 646-62c-62d 645-62e-64a 644-62c-645 643-645-645 644-62c-645"),
  (0xFDBD, "646-62c-62d 62c-62d-64a 62d-62c-64a 645-62c-64a 641-645-64a 628-62d-64a"),
  (0xFDC3, "643-645-645 639-62c-645 635-645-645 633-62e-64a 646-62c-64a"),
  (0xFDF0, "635-644-6d2 642-644-6d2 627-644-644-647 627-643-628-631 645-62d-645-62f"),
  (0xFDF5, "635-644-639-645 631-633-648-644 639-644-64a-647 648-633-644-645 635-644-649"),
  (0xFE33, "5f 5f"), (0xFE4D, "5f 5f 5f"), (0xFE71, "640-64b"),
  (0xFE77, "640-64e fe78 640-64f fe7a 640-650 fe7c 640-651 fe7e 640-652 621 627-653 627-653"),
  (0xFE83, "627-654 627-654 648-654 648-654 627-655 627-655 64a-654 64a-654 64a-654 64a-654"),
  (0xFE8D, "627 627 628 628 628 628 629 629 62a 62a 62a 62a 62b 62b 62b 62b 62c 62c 62c 62c"),
  (0xFEA1, "62d 62d 62d 62d 62e 62e 62e 62e 62f 62f 630 630 631 631 632 632 633 633 633 633"),
  (0xFEB5, "634 634 634 634 635 635 635 635 636 636 636 636 637 637 637 637 638 638 638 638"),
  (0xFEC9, "639 639 639 639 63a 63a 63a 63a 641 641 641 641 642 642 642 642 643 643 643 643"),
  (0xFEDD, "644 644 644 644 645 645 645 645 646 646 646 646 647 647 647 647 648 648 649 649"),
  (0xFEF1, "64a 64a 64a 64a 644-627-653 644-627-653 644-627-654 644-627-654 644-627-655"),
  (0xFEFA, "644-627-655 644-627 644-627"), (0xFF10, "30 31 32 33 34 35 36 37 38 39"),
  (0xFF21, "41 42 43 44 45 46 47 48 49 4a 4b 4c 4d 4e 4f 50 51 52 53 54 55 56 57 58 59 5a"),
  (0xFF3F, "5f ff40 61 62 63 64 65 66 67 68 69 6a 6b 6c 6d 6e 6f 70 71 72 73 74 75 76 77 78"),
  (0xFF59, "79 7a"),
  (0xFF66, "30f2 30a1 30a3 30a5 30a7 30a9 30e3 30e5 30e7 30c3 30fc 30a2 30a4 30a6 30a8 30aa"),
  (0xFF76, "30ab 30ad 30af 30b1 30b3 30b5 30b7 30b9 30bb 30bd 30bf 30c1 30c4 30c6 30c8 30ca"),
  (0xFF86, "30cb 30cc 30cd 30ce 30cf 30d2 30d5 30d8 30db 30de 30df 30e0 30e1 30e2 30e4 30e6"),
  (0xFF96, "30e8 30e9 30ea 30eb 30ec 30ed 30ef 30f3 3099 309a 1160 1100 1101 11aa 1102 11ac"),
  (0xFFA6, "11ad 1103 1104 1105 11b0 11b1 11b2 11b3 11b4 11b5 111a 1106 1107 1108 1121 1109"),
  (0xFFB6, "110a 110b 110c 110d 110e 110f 1110 1111 1112 ffbf ffc0 ffc1 1161 1162 1163 1164"),
  (0xFFC6, "1165 1166 ffc8 ffc9 1167 1168 1169 116a 116b 116c ffd0 ffd1 116d 116e 116f 1170"),
  (0xFFD6, "1171 1172 ffd8 ffd9 1173 1174 1175"),
  (0x10781, "2d0 2d1 e6 299 253 10786 2a3 ab66 2a5 2a4 256 257 1d91 258 25e 2a9 264 262 260"),
  (0x10794, "29b 127 29c 267 284 2aa 2ab 26c 1df04 a78e 26e 1df05 28e 1df06 f8 276 277 71 27a"),
  (0x107A7, "1df08 27d 27e 280 2a8 2a6 ab67 2a7 288 2c71 107b1 28f 2a1 2a2 298 1c0 1c1 1c2"),
  (0x107B9, "1df0a 1df1e"), (0x1109A, "11099-110ba 1109b 1109b-110ba"), (0x110AB, "110a5-110ba"),
  (0x1112E, "11131-11127 11132-11127"), (0x1134B, "11347-1133e 11347-11357"),
  (0x114BB, "114b9-114ba 114b9-114b0 114bd 114b9-114bd"), (0x115BA, "115b8-115af 115b9-115af"),
  (0x11938, "11935-11930"),
  (0x1D400, "41 42 43 44 45 46 47 48 49 4a 4b 4c 4d 4e 4f 50 51 52 53 54 55 56 57 58 59 5a 61"),
  (0x1D41B, "62 63 64 65 66 67 68 69 6a 6b 6c 6d 6e 6f 70 71 72 73 74 75 76 77 78 79 7a 41 42"),
  (0x1D436, "43 44 45 46 47 48 49 4a 4b 4c 4d 4e 4f 50 51 52 53 54 55 56 57 58 59 5a 61 62 63"),
  (0x1D451, "64 65 66 67 1d455 69 6a 6b 6c 6d 6e 6f 70 71 72 73 74 75 76 77 78 79 7a 41 42 43"),
  (0x1D46B, "44 45 46 47 48 49 4a 4b 4c 4d 4e 4f 50 51 52 53 54 55 56 57 58 59 5a 61 62 63 64"),
  (0x1D486, "65 66 67 68 69 6a 6b 6c 6d 6e 6f 70 71 72 73 74 75 76 77 78 79 7a 41 1d49d 43 44"),
  (0x1D4A2, "47 1d4a3 1d4a4 4a 4b 1d4a7 1d4a8 4e 4f 50 51 1d4ad 53 54 55 56 57 58 59 5a 61 62"),
  (0x1D4B8, "63 64 1d4ba 66 1d4bc 68 69 6a 6b 6c 6d 6e 1d4c4 70 71 72 73 74 75 76 77 78 79 7a"),
  (0x1D4D0, "41 42 43 44 45 46 47 48 49 4a 4b 4c 4d 4e 4f 50 51 52 53 54 55 56 57 58 59 5a 61"),
  (0x1D4EB, "62 63 64 65 66 67 68 69 6a 6b 6c 6d 6e 6f 70 71 72 73 74 75 76 77 78 79 7a 41 42"),
  (0x1D507, "44 45 46 47 1d50b 1d50c 4a 4b 4c 4d 4e 4f 50 51 1d515 53 54 55 56 57 58 59"),
  (0x1D51E, "61 62 63 64 65 66 67 68 69 6a 6b 6c 6d 6e 6f 70 71 72 73 74 75 76 77 78 79 7a 41"),
  (0x1D539, "42 1d53a 44 45 46 47 1d53f 49 4a 4b 4c 4d 1d545 4f 1d547 1d548 1d549 53 54 55 56"),
  (0x1D54E, "57 58 59 1d551 61 62 63 64 65 66 67 68 69 6a 6b 6c 6d 6e 6f 70 71 72 73 74 75 76"),
  (0x1D568, "77 78 79 7a 41 42 43 44 45 46 47 48 49 4a 4b 4c 4d 4e 4f 50 51 52 53 54 55 56 57"),
  (0x1D583, "58 59 5a 61 62 63 64 65 66 67 68 69 6a 6b 6c 6d 6e 6f 70 71 72 73 74 75 76 77 78"),
  (0x1D59E, "79 7a 41 42 43 44 45 46 47 48 49 4a 4b 4c 4d 4e 4f 50 51 52 53 54 55 56 57 58 59"),
  (0x1D5B9, "5a 61 62 63 64 65 66 67 68 69 6a 6b 6c 6d 6e 6f 70 71 72 73 74 75 76 77 78 79 7a"),
  (0x1D5D4, "41 42 43 44 45 46 47 48 49 4a 4b 4c 4d 4e 4f 50 51 52 53 54 55 56 57 58 59 5a 61"),
  (0x1D5EF, "62 63 64 65 66 67 68 69 6a 6b 6c 6d 6e 6f 70 71 72 73 74 75 76 77 78 79 7a 41 42"),
  (0x1D60A, "43 44 45 46 47 48 49 4a 4b 4c 4d 4e 4f 50 51 52 53 54 55 56 57 58 59 5a 61 62 63"),
  (0x1D625, "64 65 66 67 68 69 6a 6b 6c 6d 6e 6f 70 71 72 73 74 75 76 77 78 79 7a 41 42 43 44"),
  (0x1D640, "45 46 47 48 49 4a 4b 4c 4d 4e 4f 50 51 52 53 54 55 56 57 58 59 5a 61 62 63 64 65"),
  (0x1D65B, "66 67 68 69 6a 6b 6c 6d 6e 6f 70 71 72 73 74 75 76 77 78 79 7a 41 42 43 44 45 46"),
  (0x1D676, "47 48 49 4a 4b 4c 4d 4e 4f 50 51 52 53 54 55 56 57 58 59 5a 61 62 63 64 65 66 67"),
  (0x1D691, "68 69 6a 6b 6c 6d 6e 6f 70 71 72 73 74 75 76 77 78 79 7a 131 237 1d6a6 1d6a7 391"),
  (0x1D6A9, "392 393 394 395 396 397 398 399 39a 39b 39c 39d 39e 39f 3a0 3a1 398 3a3 3a4 3a5"),
  (0x1D6BD, "3a6 3a7 3a8 3a9 1d6c1 3b1 3b2 3b3 3b4 3b5 3b6 3b7 3b8 3b9 3ba 3bb 3bc 3bd 3be"),
  (0x1D6D0, "3bf 3c0 3c1 3c2 3c3 3c4 3c5 3c6 3c7 3c8 3c9 1d6db 3b5 3b8 3ba 3c6 3c1 3c0 391"),
  (0x1D6E3, "392 393 394 395 396 397 398 399 39a 39b 39c 39d 39e 39f 3a0 3a1 398 3a3 3a4 3a5"),
  (0x1D6F7, "3a6 3a7 3a8 3a9 1d6fb 3b1 3b2 3b3 3b4 3b5 3b6 3b7 3b8 3b9 3ba 3bb 3bc 3bd 3be"),
  (0x1D70A, "3bf 3c0 3c1 3c2 3c3 3c4 3c5 3c6 3c7 3c8 3c9 1d715 3b5 3b8 3ba 3c6 3c1 3c0 391"),
  (0x1D71D, "392 393 394 395 396 397 398 399 39a 39b 39c 39d 39e 39f 3a0 3a1 398 3a3 3a4 3a5"),
  (0x1D731, "3a6 3a7 3a8 3a9 1d735 3b1 3b2 3b3 3b4 3b5 3b6 3b7 3b8 3b9 3ba 3bb 3bc 3bd 3be"),
  (0x1D744, "3bf 3c0 3c1 3c2 3c3 3c4 3c5 3c6 3c7 3c8 3c9 1d74f 3b5 3b8 3ba 3c6 3c1 3c0 391"),
  (0x1D757, "392 393 394 395 396 397 398 399 39a 39b 39c 39d 39e 39f 3a0 3a1 398 3a3 3a4 3a5"),
  (0x1D76B, "3a6 3a7 3a8 3a9 1d76f 3b1 3b2 3b3 3b4 3b5 3b6 3b7 3b8 3b9 3ba 3bb 3bc 3bd 3be"),
  (0x1D77E, "3bf 3c0 3c1 3c2 3c3 3c4 3c5 3c6 3c7 3c8 3c9 1d789 3b5 3b8 3ba 3c6 3c1 3c0 391"),
  (0x1D791, "392 393 394 395 396 397 398 399 39a 39b 39c 39d 39e 39f 3a0 3a1 398 3a3 3a4 3a5"),
  (0x1D7A5, "3a6 3a7 3a8 3a9 1d7a9 3b1 3b2 3b3 3b4 3b5 3b6 3b7 3b8 3b9 3ba 3bb 3bc 3bd 3be"),
  (0x1D7B8, "3bf 3c0 3c1 3c2 3c3 3c4 3c5 3c6 3c7 3c8 3c9 1d7c3 3b5 3b8 3ba 3c6 3c1 3c0 3dc"),
  (0x1D7CB, "3dd 1d7cc 1d7cd 30 31 32 33 34 35 36 37 38 39 30 31 32 33 34 35 36 37 38 39 30"),
  (0x1D7E3, "31 32 33 34 35 36 37 38 39 30 31 32 33 34 35 36 37 38 39 30 31 32 33 34 35 36 37"),
  (0x1D7FE, "38 39"),
  (0x1EE00, "627 628 62c 62f 1ee04 648 632 62d 637 64a 643 644 645 646 633 639 641 635 642"),
  (0x1EE13, "631 634 62a 62b 62e 630 636 638 63a 66e 6ba 6a1 66f 1ee20 628 62c 1ee23 647"),
  (0x1EE27, "62d 1ee28 64a 643 644 645 646 633 639 641 635 642 1ee33 634 62a 62b 62e"),
  (0x1EE39, "636 1ee3a 63a"), (0x1EE42, "62c"),
  (0x1EE47, "62d 1ee48 64a 1ee4a 644 1ee4c 646 633 639 1ee50 635 642 1ee53 634"),
  (0x1EE57, "62e 1ee58 636 1ee5a 63a 1ee5c 6ba 1ee5e 66f 1ee60 628 62c 1ee63 647"),
  (0x1EE67, "62d 637 64a 643 1ee6b 645 646 633 639 641 635 642 1ee73 634 62a 62b 62e"),
  (0x1EE79, "636 638 63a 66e 1ee7d 6a1 1ee7f 627 628 62c 62f 647 648 632 62d 637 64a"),
  (0x1EE8B, "644 645 646 633 639 641 635 642 631 634 62a 62b 62e 630 636 638 63a"),
  (0x1EEA1, "628 62c 62f 1eea4 648 632 62d 637 64a 1eeaa 644 645 646 633 639 641 635 642 631"),
  (0x1EEB4, "634 62a 62b 62e 630 636 638 63a"), (0x1FBF0, "30 31 32 33 34 35 36 37 38 39"),
  (0x2F800, "4e3d 4e38 4e41 20122 4f60 4fae 4fbb 5002 507a 5099 50e7 50cf 349e 2063a 514d"),
  (0x2F80F, "5154 5164 5177 2051c 34b9 5167 518d 2054b 5197 51a4 4ecc 51ac 51b5 291df 51f5"),
  (0x2F81E, "5203 34df 523b 5246 5272 5277 3515 52c7 52c9 52e4 52fa 5305 5306 5317 5349 5351"),
  (0x2F82E, "535a 5373 537d 537f 537f 537f 20a2c 7070 53ca 53df 20b63 53eb 53f1 5406 549e"),
  (0x2F83D, "5438 5448 5468 54a2 54f6 5510 5553 5563 5584 5584 5599 55ab 55b3 55c2 5716 5606"),
  (0x2F84D, "5717 5651 5674 5207 58ee 57ce 57f4 580d 578b 5832 5831 58ac 214e4 58f2 58f7 5906"),
  (0x2F85D, "591a 5922 5962 216a8 216ea 59ec 5a1b 5a27 59d8 5a66 36ee 36fc 5b08 5b3e 5b3e"),
  (0x2F86C, "219c8 5bc3 5bd8 5be7 5bf3 21b18 5bff 5c06 5f53 5c22 3781 5c60 5c6e 5cc0 5c8d"),
  (0x2F87B, "21de4 5d43 21de6 5d6e 5d6b 5d7c 5de1 5de2 382f 5dfd 5e28 5e3d 5e69 3862 22183"),
  (0x2F88A, "387c 5eb0 5eb3 5eb6 5eca 2a392 5efe 22331 22331 8201 5f22 5f22 38c7 232b8 261da"),
  (0x2F899, "5f62 5f6b 38e3 5f9a 5fcd 5fd7 5ff9 6081 393a 391c 6094 226d4 60c7 6148 614c 614e"),
  (0x2F8A9, "614c 617a 618e 61b2 61a4 61af 61de 61f2 61f6 6210 621b 625d 62b1 62d4 6350 22b0c"),
  (0x2F8B9, "633d 62fc 6368 6383 63e4 22bf1 6422 63c5 63a9 3a2e 6469 647e 649d 6477 3a6c 654f"),
  (0x2F8C9, "656c 2300a 65e3 66f8 6649 3b19 6691 3b08 3ae4 5192 5195 6700 669c 80ad 43d9 6717"),
  (0x2F8D9, "671b 6721 675e 6753 233c3 3b49 67fa 6785 6852 6885 2346d 688e 681f 6914 3b9d"),
  (0x2F8E8, "6942 69a3 69ea 6aa8 236a3 6adb 3c18 6b21 238a7 6b54 3c4e 6b72 6b9f 6bba 6bbb"),
  (0x2F8F7, "23a8d 21d0b 23afa 6c4e 23cbc 6cbf 6ccd 6c67 6d16 6d3e 6d77 6d41 6d69 6d78 6d85"),
  (0x2F906, "23d1e 6d34 6e2f 6e6e 3d33 6ecb 6ec7 23ed1 6df9 6f6e 23f5e 23f8e 6fc6 7039 701e"),
  (0x2F915, "701b 3d96 704a 707d 7077 70ad 20525 7145 24263 719c 243ab 7228 7235 7250 24608"),
  (0x2F924, "7280 7295 24735 24814 737a 738b 3eac 73a5 3eb8 3eb8 7447 745c 7471 7485 74ca"),
  (0x2F933, "3f1b 7524 24c36 753e 24c92 7570 2219f 7610 24fa1 24fb8 25044 3ffc 4008 76f4"),
  (0x2F941, "250f3 250f2 25119 25133 771e 771f 771f 774a 4039 778b 4046 4096 2541d 784e 788c"),
  (0x2F950, "78cc 40e3 25626 7956 2569a 256c5 798f 79eb 412f 7a40 7a4a 7a4f 2597c 25aa7 25aa7"),
  (0x2F95F, "7aee 4202 25bab 7bc6 7bc9 4227 25c80 7cd2 42a0 7ce8 7ce3 7d00 25f86 7d63 4301"),
  (0x2F96E, "7dc7 7e02 7e45 4334 26228 26247 4359 262d9 7f7a 2633e 7f95 7ffa 8005 264da 26523"),
  (0x2F97D, "8060 265a8 8070 2335f 43d5 80b2 8103 440b 813e 5ab5 267a7 267b5 23393 2339c 8201"),
  (0x2F98C, "8204 8f9e 446b 8291 828b 829d 52b3 82b1 82b3 82bd 82e6 26b3c 82e5 831d 8363 83ad"),
  (0x2F99C, "8323 83bd 83e7 8457 8353 83ca 83cc 83dc 26c36 26d6b 26cd5 452b 84f1 84f3 8516"),
  (0x2F9AB, "273ca 8564 26f2c 455d 4561 26fb1 270d2 456b 8650 865c 8667 8669 86a9 8688 870e"),
  (0x2F9BA, "86e2 8779 8728 876b 8786 45d7 87e1 8801 45f9 8860 8863 27667 88d7 88de 4635 88fa"),
  (0x2F9CA, "34bb 278ae 27966 46be 46c7 8aa0 8aed 8b8a 8c55 27ca8 8cab 8cc1 8d1b 8d77 27f2f"),
  (0x2F9D9, "20804 8dcb 8dbc 8df0 208de 8ed4 8f38 285d2 285ed 9094 90f1 9111 2872e 911b 9238"),
  (0x2F9E8, "92d7 92d8 927c 93f9 9415 28bfa 958b 4995 95b7 28d77 49e6 96c3 5db2 9723 29145"),
  (0x2F9F7, "2921a 4a6e 4a76 97e0 2940a 4ab2 29496 980b 980b 9829 295b6 98e2 4b33 9929 99a7"),
  (0x2FA06, "99c2 99fe 4bce 29b30 9b12 9c40 9cfd 4cce 4ced 9d67 2a0ce 4cf8 2a105 2a20e 2a291"),
  (0x2FA15, "9ebb 4d56 9ef9 9efe 9f05 9f0f 9f16 9f3b 2a600")]

/-- Runs of marks of one class: the first code point, the last one and the class. -/
def markClasses : List (Nat × Nat × Nat) := [
  (768, 788, 230), (789, 789, 232), (790, 793, 220), (794, 794, 232), (795, 795, 216),
  (796, 800, 220), (801, 802, 202), (803, 806, 220), (807, 808, 202), (809, 819, 220),
  (820, 824, 1), (825, 828, 220), (829, 836, 230), (837, 837, 240), (838, 838, 230),
  (839, 841, 220), (842, 844, 230), (845, 846, 220), (848, 850, 230), (851, 854, 220),
  (855, 855, 230), (856, 856, 232), (857, 858, 220), (859, 859, 230), (860, 860, 233),
  (861, 862, 234), (863, 863, 233), (864, 865, 234), (866, 866, 233), (867, 879, 230),
  (1155, 1159, 230), (1425, 1425, 220), (1426, 1429, 230), (1430, 1430, 220), (1431, 1433, 230),
  (1434, 1434, 222), (1435, 1435, 220), (1436, 1441, 230), (1442, 1447, 220), (1448, 1449, 230),
  (1450, 1450, 220), (1451, 1452, 230), (1453, 1453, 222), (1454, 1454, 228), (1455, 1455, 230),
  (1456, 1456, 10), (1457, 1457, 11), (1458, 1458, 12), (1459, 1459, 13), (1460, 1460, 14),
  (1461, 1461, 15), (1462, 1462, 16), (1463, 1463, 17), (1464, 1464, 18), (1465, 1466, 19),
  (1467, 1467, 20), (1468, 1468, 21), (1469, 1469, 22), (1471, 1471, 23), (1473, 1473, 24),
  (1474, 1474, 25), (1476, 1476, 230), (1477, 1477, 220), (1479, 1479, 18), (1552, 1559, 230),
  (1560, 1560, 30), (1561, 1561, 31), (1562, 1562, 32), (1611, 1611, 27), (1612, 1612, 28),
  (1613, 1613, 29), (1614, 1614, 30), (1615, 1615, 31), (1616, 1616, 32), (1617, 1617, 33),
  (1618, 1618, 34), (1619, 1620, 230), (1621, 1622, 220), (1623, 1627, 230), (1628, 1628, 220),
  (1629, 1630, 230), (1631, 1631, 220), (1648, 1648, 35), (1750, 1756, 230), (1759, 1762, 230),
  (1763, 1763, 220), (1764, 1764, 230), (1767, 1768, 230), (1770, 1770, 220), (1771, 1772, 230),
  (1773, 1773, 220), (1809, 1809, 36), (1840, 1840, 230), (1841, 1841, 220), (1842, 1843, 230),
  (1844, 1844, 220), (1845, 1846, 230), (1847, 1849, 220), (1850, 1850, 230), (1851, 1852, 220),
  (1853, 1853, 230), (1854, 1854, 220), (1855, 1857, 230), (1858, 1858, 220), (1859, 1859, 230),
  (1860, 1860, 220), (1861, 1861, 230), (1862, 1862, 220), (1863, 1863, 230), (1864, 1864, 220),
  (1865, 1866, 230), (2027, 2033, 230), (2034, 2034, 220), (2035, 2035, 230), (2045, 2045, 220),
  (2070, 2073, 230), (2075, 2083, 230), (2085, 2087, 230), (2089, 2093, 230), (2137, 2139, 220),
  (2200, 2200, 230), (2201, 2203, 220), (2204, 2207, 230), (2250, 2254, 230), (2255, 2259, 220),
  (2260, 2273, 230), (2275, 2275, 220), (2276, 2277, 230), (2278, 2278, 220), (2279, 2280, 230),
  (2281, 2281, 220), (2282, 2284, 230), (2285, 2287, 220), (2288, 2288, 27), (2289, 2289, 28),
  (2290, 2290, 29), (2291, 2293, 230), (2294, 2294, 220), (2295, 2296, 230), (2297, 2298, 220),
  (2299, 2303, 230), (2364, 2364, 7), (2381, 2381, 9), (2385, 2385, 230), (2386, 2386, 220),
  (2387, 2388, 230), (2492, 2492, 7), (2509, 2509, 9), (2558, 2558, 230), (2620, 2620, 7),
  (2637, 2637, 9), (2748, 2748, 7), (2765, 2765, 9), (2876, 2876, 7), (2893, 2893, 9),
  (3021, 3021, 9), (3132, 3132, 7), (3149, 3149, 9), (3157, 3157, 84), (3158, 3158, 91),
  (3260, 3260, 7), (3277, 3277, 9), (3387, 3388, 9), (3405, 3405, 9), (3530, 3530, 9),
  (3640, 3641, 103), (3642, 3642, 9), (3656, 3659, 107), (3768, 3769, 118), (3770, 3770, 9),
  (3784, 3787, 122), (3864, 3865, 220), (3893, 3893, 220), (3895, 3895, 220), (3897, 3897, 216),
  (3953, 3953, 129), (3954, 3954, 130), (3956, 3956, 132), (3962, 3965, 130), (3968, 3968, 130),
  (3970, 3971, 230), (3972, 3972, 9), (3974, 3975, 230), (4038, 4038, 220), (4151, 4151, 7),
  (4153, 4154, 9), (4237, 4237, 220), (4957, 4959, 230), (5908, 5909, 9), (5940, 5940, 9),
  (6098, 6098, 9), (6109, 6109, 230), (6313, 6313, 228), (6457, 6457, 222), (6458, 6458, 230),
  (6459, 6459, 220), (6679, 6679, 230), (6680, 6680, 220), (6752, 6752, 9), (6773, 6780, 230),
  (6783, 6783, 220), (6832, 6836, 230), (6837, 6842, 220), (6843, 6844, 230), (6845, 6845, 220),
  (6847, 6848, 220), (6849, 6850, 230), (6851, 6852, 220), (6853, 6857, 230), (6858, 6858, 220),
  (6859, 6862, 230), (6964, 6964, 7), (6980, 6980, 9), (7019, 7019, 230), (7020, 7020, 220),
  (7021, 7027, 230), (7082, 7083, 9), (7142, 7142, 7), (7154, 7155, 9), (7223, 7223, 7),
  (7376, 7378, 230), (7380, 7380, 1), (7381, 7385, 220), (7386, 7387, 230), (7388, 7391, 220),
  (7392, 7392, 230), (7394, 7400, 1), (7405, 7405, 220), (7412, 7412, 230), (7416, 7417, 230),
  (7616, 7617, 230), (7618, 7618, 220), (7619, 7625, 230), (7626, 7626, 220), (7627, 7628, 230),
  (7629, 7629, 234), (7630, 7630, 214), (7631, 7631, 220), (7632, 7632, 202), (7633, 7669, 230),
  (7670, 7670, 232), (7671, 7672, 228), (7673, 7673, 220), (7674, 7674, 218), (7675, 7675, 230),
  (7676, 7676, 233), (7677, 7677, 220), (7678, 7678, 230), (7679, 7679, 220), (8400, 8401, 230),
  (8402, 8403, 1), (8404, 8407, 230), (8408, 8410, 1), (8411, 8412, 230), (8417, 8417, 230),
  (8421, 8422, 1), (8423, 8423, 230), (8424, 8424, 220), (8425, 8425, 230), (8426, 8427, 1),
  (8428, 8431, 220), (8432, 8432, 230), (11503, 11505, 230), (11647, 11647, 9),
  (11744, 11775, 230), (12330, 12330, 218), (12331, 12331, 228), (12332, 12332, 232),
  (12333, 12333, 222), (12334, 12335, 224), (12441, 12442, 8), (42607, 42607, 230),
  (42612, 42621, 230), (42654, 42655, 230), (42736, 42737, 230), (43014, 43014, 9),
  (43052, 43052, 9), (43204, 43204, 9), (43232, 43249, 230), (43307, 43309, 220),
  (43347, 43347, 9), (43443, 43443, 7), (43456, 43456, 9), (43696, 43696, 230),
  (43698, 43699, 230), (43700, 43700, 220), (43703, 43704, 230), (43710, 43711, 230),
  (43713, 43713, 230), (43766, 43766, 9), (44013, 44013, 9), (64286, 64286, 26),
  (65056, 65062, 230), (65063, 65069, 220), (65070, 65071, 230), (66045, 66045, 220),
  (66272, 66272, 220), (66422, 66426, 230), (68109, 68109, 220), (68111, 68111, 230),
  (68152, 68152, 230), (68153, 68153, 1), (68154, 68154, 220), (68159, 68159, 9),
  (68325, 68325, 230), (68326, 68326, 220), (68900, 68903, 230), (69291, 69292, 230),
  (69446, 69447, 220), (69448, 69450, 230), (69451, 69451, 220), (69452, 69452, 230),
  (69453, 69456, 220), (69506, 69506, 230), (69507, 69507, 220), (69508, 69508, 230),
  (69509, 69509, 220), (69702, 69702, 9), (69744, 69744, 9), (69759, 69759, 9), (69817, 69817, 9),
  (69818, 69818, 7), (69888, 69890, 230), (69939, 69940, 9), (70003, 70003, 7), (70080, 70080, 9),
  (70090, 70090, 7), (70197, 70197, 9), (70198, 70198, 7), (70377, 70377, 7), (70378, 70378, 9),
  (70459, 70460, 7), (70477, 70477, 9), (70502, 70508, 230), (70512, 70516, 230),
  (70722, 70722, 9), (70726, 70726, 7), (70750, 70750, 230), (70850, 70850, 9), (70851, 70851, 7),
  (71103, 71103, 9), (71104, 71104, 7), (71231, 71231, 9), (71350, 71350, 9), (71351, 71351, 7),
  (71467, 71467, 9), (71737, 71737, 9), (71738, 71738, 7), (71997, 71998, 9), (72003, 72003, 7),
  (72160, 72160, 9), (72244, 72244, 9), (72263, 72263, 9), (72345, 72345, 9), (72767, 72767, 9),
  (73026, 73026, 7), (73028, 73029, 9), (73111, 73111, 9), (92912, 92916, 1), (92976, 92982, 230),
  (94192, 94193, 6), (113822, 113822, 1), (119141, 119142, 216), (119143, 119145, 1),
  (119149, 119149, 226), (119150, 119154, 216), (119163, 119170, 220), (119173, 119177, 230),
  (119178, 119179, 220), (119210, 119213, 230), (119362, 119364, 230), (122880, 122886, 230),
  (122888, 122904, 230), (122907, 122913, 230), (122915, 122916, 230), (122918, 122922, 230),
  (123184, 123190, 230), (123566, 123566, 230), (123628, 123631, 230), (125136, 125142, 220),
  (125252, 125257, 230), (125258, 125258, 7)]

end SchemaStruct.Text
