import TeacherDirectory.DomainName.Replacement

/-!
# Characters of domain names

Domain names that differ in the case of letters, in variants of characters or in characters that do
not show are one name. Each character therefore stands for the characters of its plain form, which
may be none. Some characters may not be written in a domain name at all. The tables are those of
version 17 of Unicode.
-/

namespace TeacherDirectory.DomainName

set_option autoImplicit false

open Text

def excluded : Table := .read "
  80-9f, 378-379, 380-383, 38b, 38d, 3a2, 530, 557-558, 58b-58c, 590, 5c8-5cf, 5eb-5ee, 5f5-605,
  61c, 6dd, 70e-70f, 74b-74c, 7b2-7bf, 7fb-7fc, 82e-82f, 83f, 85c-85d, 85f, 86b-86f, 890-896, 8e2,
  984, 98d-98e, 991-992, 9a9, 9b1, 9b3-9b5, 9ba-9bb, 9c5-9c6, 9c9-9ca, 9cf-9d6, 9d8-9db, 9de,
  9e4-9e5, 9ff-a00, a04, a0b-a0e, a11-a12, a29, a31, a34, a37, a3a-a3b, a3d, a43-a46, a49-a4a,
  a4e-a50, a52-a58, a5d, a5f-a65, a77-a80, a84, a8e, a92, aa9, ab1, ab4, aba-abb, ac6, aca,
  ace-acf, ad1-adf, ae4-ae5, af2-af8, b00, b04, b0d-b0e, b11-b12, b29, b31, b34, b3a-b3b, b45-b46,
  b49-b4a, b4e-b54, b58-b5b, b5e, b64-b65, b78-b81, b84, b8b-b8d, b91, b96-b98, b9b, b9d, ba0-ba2,
  ba5-ba7, bab-bad, bba-bbd, bc3-bc5, bc9, bce-bcf, bd1-bd6, bd8-be5, bfb-bff, c0d, c11, c29,
  c3a-c3b, c45, c49, c4e-c54, c57, c5b, c5e-c5f, c64-c65, c70-c76, c8d, c91, ca9, cb4, cba-cbb,
  cc5, cc9, cce-cd4, cd7-cdb, cdf, ce4-ce5, cf0, cf4-cff, d0d, d11, d45, d49, d50-d53, d64-d65,
  d80, d84, d97-d99, db2, dbc, dbe-dbf, dc7-dc9, dcb-dce, dd5, dd7, de0-de5, df0-df1, df5-e00,
  e3b-e3e, e5c-e80, e83, e85, e8b, ea4, ea6, ebe-ebf, ec5, ec7, ecf, eda-edb, ee0-eff, f48,
  f6d-f70, f98, fbd, fcd, fdb-fff, 10c6, 10c8-10cc, 10ce-10cf, 1249, 124e-124f, 1257, 1259,
  125e-125f, 1289, 128e-128f, 12b1, 12b6-12b7, 12bf, 12c1, 12c6-12c7, 12d7, 1311, 1316-1317,
  135b-135c, 137d-137f, 139a-139f, 13f6-13f7, 13fe-13ff, 1680, 169d-169f, 16f9-16ff, 1716-171e,
  1737-173f, 1754-175f, 176d, 1771, 1774-177f, 17de-17df, 17ea-17ef, 17fa-17ff, 181a-181f,
  1879-187f, 18ab-18af, 18f6-18ff, 191f, 192c-192f, 193c-193f, 1941-1943, 196e-196f, 1975-197f,
  19ac-19af, 19ca-19cf, 19db-19dd, 1a1c-1a1d, 1a5f, 1a7d-1a7e, 1a8a-1a8f, 1a9a-1a9f, 1aae-1aaf,
  1ade-1adf, 1aec-1aff, 1b4d, 1bf4-1bfb, 1c38-1c3a, 1c4a-1c4c, 1c8b-1c8f, 1cbb-1cbc, 1cc8-1ccf,
  1cfb-1cff, 1f16-1f17, 1f1e-1f1f, 1f46-1f47, 1f4e-1f4f, 1f58, 1f5a, 1f5c, 1f5e, 1f7e-1f7f, 1fb5,
  1fc5, 1fd4-1fd5, 1fdc, 1ff0-1ff1, 1ff5, 1fff, 200e-200f, 2024-2026, 2028-202e, 2065-2069,
  2072-2073, 208f, 209d-209f, 20c2-20cf, 20f1-20ff, 218c-218f, 242a-243f, 244b-245f, 2488-249b,
  2b74-2b75, 2cf4-2cf8, 2d26, 2d28-2d2c, 2d2e-2d2f, 2d68-2d6e, 2d71-2d7e, 2d97-2d9f, 2da7, 2daf,
  2db7, 2dbf, 2dc7, 2dcf, 2dd7, 2ddf, 2e5e-2e7f, 2e9a, 2ef4-2eff, 2fd6-2fff, 3040, 3097-3098,
  3100-3104, 3130, 318f, 31e6-31ef, 321f, 33c2, 33c7, 33d8, a48d-a48f, a4c7-a4cf, a62c-a63f,
  a6f8-a6ff, a7dd-a7f0, a82d-a82f, a83a-a83f, a878-a87f, a8c6-a8cd, a8da-a8df, a954-a95e,
  a97d-a97f, a9ce, a9da-a9dd, a9ff, aa37-aa3f, aa4e-aa4f, aa5a-aa5b, aac3-aada, aaf7-ab00,
  ab07-ab08, ab0f-ab10, ab17-ab1f, ab27, ab2f, ab6c-ab6f, abee-abef, abfa-abff, d7a4-d7af,
  d7c7-d7ca, d7fc-f8ff, fa6e-fa6f, fada-faff, fb07-fb12, fb18-fb1c, fb37, fb3d, fb3f, fb42, fb45,
  fdd0-fdef, fe12, fe19-fe1f, fe30, fe52-fe53, fe67, fe6c-fe6f, fe75, fefd-fefe, ff00, ffbf-ffc1,
  ffc8-ffc9, ffd0-ffd1, ffd8-ffd9, ffdd-ffdf, ffe7, ffef-ffff, 1000c, 10027, 1003b, 1003e,
  1004e-1004f, 1005e-1007f, 100fb-100ff, 10103-10106, 10134-10136, 1018f, 1019d-1019f, 101a1-101cf,
  101fe-1027f, 1029d-1029f, 102d1-102df, 102fc-102ff, 10324-1032c, 1034b-1034f, 1037b-1037f, 1039e,
  103c4-103c7, 103d6-103ff, 1049e-1049f, 104aa-104af, 104d4-104d7, 104fc-104ff, 10528-1052f,
  10564-1056e, 1057b, 1058b, 10593, 10596, 105a2, 105b2, 105ba, 105bd-105bf, 105f4-105ff,
  10737-1073f, 10756-1075f, 10768-1077f, 10786, 107b1, 107bb-107ff, 10806-10807, 10809, 10836,
  10839-1083b, 1083d-1083e, 10856, 1089f-108a6, 108b0-108df, 108f3, 108f6-108fa, 1091c-1091e,
  1093a-1093e, 1095a-1097f, 109b8-109bb, 109d0-109d1, 10a04, 10a07-10a0b, 10a14, 10a18,
  10a36-10a37, 10a3b-10a3e, 10a49-10a4f, 10a59-10a5f, 10aa0-10abf, 10ae7-10aea, 10af7-10aff,
  10b36-10b38, 10b56-10b57, 10b73-10b77, 10b92-10b98, 10b9d-10ba8, 10bb0-10bff, 10c49-10c7f,
  10cb3-10cbf, 10cf3-10cf9, 10d28-10d2f, 10d3a-10d3f, 10d66-10d68, 10d86-10d8d, 10d90-10e5f, 10e7f,
  10eaa, 10eae-10eaf, 10eb2-10ec1, 10ec8-10ecf, 10ed9-10ef9, 10f28-10f2f, 10f5a-10f6f, 10f8a-10faf,
  10fcc-10fdf, 10ff7-10fff, 1104e-11051, 11076-1107e, 110bd, 110c3-110cf, 110e9-110ef, 110fa-110ff,
  11135, 11148-1114f, 11177-1117f, 111e0, 111f5-111ff, 11212, 11242-1127f, 11287, 11289, 1128e,
  1129e, 112aa-112af, 112eb-112ef, 112fa-112ff, 11304, 1130d-1130e, 11311-11312, 11329, 11331,
  11334, 1133a, 11345-11346, 11349-1134a, 1134e-1134f, 11351-11356, 11358-1135c, 11364-11365,
  1136d-1136f, 11375-1137f, 1138a, 1138c-1138d, 1138f, 113b6, 113c1, 113c3-113c4, 113c6, 113cb,
  113d6, 113d9-113e0, 113e3-113ff, 1145c, 11462-1147f, 114c8-114cf, 114da-1157f, 115b6-115b7,
  115de-115ff, 11645-1164f, 1165a-1165f, 1166d-1167f, 116ba-116bf, 116ca-116cf, 116e4-116ff,
  1171b-1171c, 1172c-1172f, 11747-117ff, 1183c-1189f, 118f3-118fe, 11907-11908, 1190a-1190b, 11914,
  11917, 11936, 11939-1193a, 11947-1194f, 1195a-1199f, 119a8-119a9, 119d8-119d9, 119e5-119ff,
  11a48-11a4f, 11aa3-11aaf, 11af9-11aff, 11b0a-11b5f, 11b68-11bbf, 11be2-11bef, 11bfa-11bff, 11c09,
  11c37, 11c46-11c4f, 11c6d-11c6f, 11c90-11c91, 11ca8, 11cb7-11cff, 11d07, 11d0a, 11d37-11d39,
  11d3b, 11d3e, 11d48-11d4f, 11d5a-11d5f, 11d66, 11d69, 11d8f, 11d92, 11d99-11d9f, 11daa-11daf,
  11ddc-11ddf, 11dea-11edf, 11ef9-11eff, 11f11, 11f3b-11f3d, 11f5b-11faf, 11fb1-11fbf, 11ff2-11ffe,
  1239a-123ff, 1246f, 12475-1247f, 12544-12f8f, 12ff3-12fff, 13430-1343f, 13456-1345f, 143fb-143ff,
  14647-160ff, 1613a-167ff, 16a39-16a3f, 16a5f, 16a6a-16a6d, 16abf, 16aca-16acf, 16aee-16aef,
  16af6-16aff, 16b46-16b4f, 16b5a, 16b62, 16b78-16b7c, 16b90-16d3f, 16d7a-16e3f, 16e9b-16e9f,
  16eb9-16eba, 16ed4-16eff, 16f4b-16f4e, 16f88-16f8e, 16fa0-16fdf, 16fe5-16fef, 16ff7-16fff,
  18cd6-18cfe, 18d1f-18d7f, 18df3-1afef, 1aff4, 1affc, 1afff, 1b123-1b131, 1b133-1b14f,
  1b153-1b154, 1b156-1b163, 1b168-1b16f, 1b2fc-1bbff, 1bc6b-1bc6f, 1bc7d-1bc7f, 1bc89-1bc8f,
  1bc9a-1bc9b, 1bca4-1cbff, 1ccfd-1ccff, 1ceb4-1ceb9, 1ced1-1cedf, 1cef1-1ceff, 1cf2e-1cf2f,
  1cf47-1cf4f, 1cfc4-1cfff, 1d0f6-1d0ff, 1d127-1d128, 1d1eb-1d1ff, 1d246-1d2bf, 1d2d4-1d2df,
  1d2f4-1d2ff, 1d357-1d35f, 1d379-1d3ff, 1d455, 1d49d, 1d4a0-1d4a1, 1d4a3-1d4a4, 1d4a7-1d4a8,
  1d4ad, 1d4ba, 1d4bc, 1d4c4, 1d506, 1d50b-1d50c, 1d515, 1d51d, 1d53a, 1d53f, 1d545, 1d547-1d549,
  1d551, 1d6a6-1d6a7, 1d7cc-1d7cd, 1da8c-1da9a, 1daa0, 1dab0-1deff, 1df1f-1df24, 1df2b-1dfff,
  1e007, 1e019-1e01a, 1e022, 1e025, 1e02b-1e02f, 1e06e-1e08e, 1e090-1e0ff, 1e12d-1e12f,
  1e13e-1e13f, 1e14a-1e14d, 1e150-1e28f, 1e2af-1e2bf, 1e2fa-1e2fe, 1e300-1e4cf, 1e4fa-1e5cf,
  1e5fb-1e5fe, 1e600-1e6bf, 1e6df, 1e6f6-1e6fd, 1e700-1e7df, 1e7e7, 1e7ec, 1e7ef, 1e7ff,
  1e8c5-1e8c6, 1e8d7-1e8ff, 1e94c-1e94f, 1e95a-1e95d, 1e960-1ec70, 1ecb5-1ed00, 1ed3e-1edff, 1ee04,
  1ee20, 1ee23, 1ee25-1ee26, 1ee28, 1ee33, 1ee38, 1ee3a, 1ee3c-1ee41, 1ee43-1ee46, 1ee48, 1ee4a,
  1ee4c, 1ee50, 1ee53, 1ee55-1ee56, 1ee58, 1ee5a, 1ee5c, 1ee5e, 1ee60, 1ee63, 1ee65-1ee66, 1ee6b,
  1ee73, 1ee78, 1ee7d, 1ee7f, 1ee8a, 1ee9c-1eea0, 1eea4, 1eeaa, 1eebc-1eeef, 1eef2-1efff,
  1f02c-1f02f, 1f094-1f09f, 1f0af-1f0b0, 1f0c0, 1f0d0, 1f0f6-1f100, 1f1ae-1f1e5, 1f203-1f20f,
  1f23c-1f23f, 1f249-1f24f, 1f252-1f25f, 1f266-1f2ff, 1f6d9-1f6db, 1f6ed-1f6ef, 1f6fd-1f6ff,
  1f7da-1f7df, 1f7ec-1f7ef, 1f7f1-1f7ff, 1f80c-1f80f, 1f848-1f84f, 1f85a-1f85f, 1f888-1f88f,
  1f8ae-1f8af, 1f8bc-1f8bf, 1f8c2-1f8cf, 1f8d9-1f8ff, 1fa58-1fa5f, 1fa6e-1fa6f, 1fa7d-1fa7f,
  1fa8b-1fa8d, 1fac7, 1fac9-1facc, 1fadd-1fade, 1faeb-1faee, 1faf9-1faff, 1fb93, 1fbfb-1ffff,
  2a6e0-2a6ff, 2b81e-2b81f, 2ceae-2ceaf, 2ebe1-2ebef, 2ee5e-2f7ff, 2fa1e-2ffff, 3134b-3134f,
  3347a-e00ff, e01f0-10ffff"

def ignored : Table := .read "
  ad, 34f, 115f-1160, 17b4-17b5, 180b-180f, 200b, 2060-2064, 206a-206f, 3164, fe00-fe0f, feff,
  ffa0, 1bca0-1bca3, 1d173-1d17a, e0100-e01ef"

/-- Ranges that are mapped in order to the range that begins with the character given. -/
def shifted : Table := .read "
  41-5a 61, b2-b3 32, c0-d6 e0, d8-de f8, 189-18a 256, 1b1-1b2 28a, 340-341 300, 388-38a 3ad,
  38e-38f 3cd, 391-3a1 3b1, 3a3-3ab 3c3, 3fd-3ff 37b, 400-40f 450, 410-42f 430, 531-556 561,
  10a0-10c5 2d00, 13f8-13fd 13f0, 1c83-1c84 441, 1c90-1cba 10d0, 1cbd-1cbf 10fd, 1d30-1d31 64,
  1d33-1d3a 67, 1d40-1d41 74, 1d44-1d45 250, 1d48-1d49 64, 1d4b-1d4c 25b, 1d54-1d55 1d16, 1d57-1d58
  74, 1d5d-1d5f 3b2, 1d60-1d61 3c6, 1d64-1d65 75, 1d66-1d67 3b2, 1d69-1d6a 3c6, 1da4-1da6 268,
  1dae-1db1 272, 1db3-1db4 282, 1db6-1db7 289, 1db9-1dba 28b, 1dbc-1dbe 290, 1f08-1f0f 1f00,
  1f18-1f1d 1f10, 1f28-1f2f 1f20, 1f38-1f3f 1f30, 1f48-1f4d 1f40, 1f68-1f6f 1f60, 1fb8-1fb9 1fb0,
  1fd8-1fd9 1fd0, 1fe8-1fe9 1fe0, 2074-2079 34, 207d-207e 28, 2080-2089 30, 208d-208e 28, 2096-2099
  6b, 209b-209c 73, 210a-210b 67, 2119-211b 70, 212c-212d 62, 2135-2138 5d0, 2148-2149 69,
  216d-216e 63, 217d-217e 63, 2329-232a 3008, 2460-2468 31, 24b6-24cf 61, 24d0-24e9 61, 2c00-2c2f
  2c30, 2c7e-2c7f 23f, 3039-303a 5344, 3131-3132 1100, 3135-3136 11ac, 3137-3139 1103, 313a-313f
  11b0, 3141-3143 1106, 3145-314e 1109, 314f-3163 1161, 3165-3166 1114, 3167-3168 11c7, 3171-3172
  111d, 3174-3175 1122, 3178-317c 112b, 3182-3183 11f1, 3184-3186 1157, 3187-3188 1184, 318a-318b
  1191, 3261-3262 1102, 3263-3265 1105, 3267-3268 110b, 3269-326d 110e, 32d4-32d5 30aa, 32e4-32e9
  30ca, 32ee-32f2 30de, 32f5-32fa 30e8, 32fb-32fe 30ef, ab70-abbf 13a0, fa52-fa53 798d, fb22-fb23
  5d3, fb24-fb26 5db, fe13-fe14 3a, fe17-fe18 3016, fe35-fe36 28, fe39-fe3a 3014, fe3b-fe3c 3010,
  fe3d-fe3e 300a, fe3f-fe40 3008, fe41-fe44 300c, fe59-fe5a 28, fe5d-fe5e 3014, fe61-fe62 2a,
  fe69-fe6a 24, fe80-fe81 621, fe82-fe83 622, fe84-fe85 623, fe86-fe87 624, fe88-fe89 625,
  ff01-ff20 21, ff21-ff3a 61, ff3b-ff5e 5b, ff5f-ff60 2985, ff62-ff63 300c, ff75-ff76 30aa,
  ff85-ff8a 30ca, ff8f-ff93 30de, ff96-ff9b 30e8, ff9e-ff9f 3099, ffa1-ffa2 1100, ffa5-ffa6 11ac,
  ffa7-ffa9 1103, ffaa-ffaf 11b0, ffb1-ffb3 1106, ffb5-ffbe 1109, ffc2-ffc7 1161, ffca-ffcf 1167,
  ffd2-ffd7 116d, ffda-ffdc 1173, ffe0-ffe1 a2, ffe9-ffec 2190, 10400-10427 10428, 104b0-104d3
  104d8, 10570-1057a 10597, 1057c-1058a 105a3, 1058c-10592 105b3, 10594-10595 105bb, 10781-10782
  2d0, 1078b-1078c 256, 10799-1079a 2aa, 107a3-107a4 276, 107a8-107a9 27d, 107b3-107b4 2a1,
  107b6-107b8 1c0, 10c80-10cb2 10cc0, 10d50-10d65 10d70, 118a0-118bf 118c0, 16e40-16e5f 16e60,
  16ea0-16eb8 16ebb, 1ccd6-1ccef 61, 1ccf0-1ccf9 30, 1d400-1d419 61, 1d41a-1d433 61, 1d434-1d44d
  61, 1d44e-1d454 61, 1d456-1d467 69, 1d468-1d481 61, 1d482-1d49b 61, 1d49e-1d49f 63, 1d4a5-1d4a6
  6a, 1d4a9-1d4ac 6e, 1d4ae-1d4b5 73, 1d4b6-1d4b9 61, 1d4bd-1d4c3 68, 1d4c5-1d4cf 70, 1d4d0-1d4e9
  61, 1d4ea-1d503 61, 1d504-1d505 61, 1d507-1d50a 64, 1d50d-1d514 6a, 1d516-1d51c 73, 1d51e-1d537
  61, 1d538-1d539 61, 1d53b-1d53e 64, 1d540-1d544 69, 1d54a-1d550 73, 1d552-1d56b 61, 1d56c-1d585
  61, 1d586-1d59f 61, 1d5a0-1d5b9 61, 1d5ba-1d5d3 61, 1d5d4-1d5ed 61, 1d5ee-1d607 61, 1d608-1d621
  61, 1d622-1d63b 61, 1d63c-1d655 61, 1d656-1d66f 61, 1d670-1d689 61, 1d68a-1d6a3 61, 1d6a8-1d6b8
  3b1, 1d6ba-1d6c0 3c3, 1d6c2-1d6d2 3b1, 1d6d5-1d6da 3c4, 1d6e2-1d6f2 3b1, 1d6f4-1d6fa 3c3,
  1d6fc-1d70c 3b1, 1d70f-1d714 3c4, 1d71c-1d72c 3b1, 1d72e-1d734 3c3, 1d736-1d746 3b1, 1d749-1d74e
  3c4, 1d756-1d766 3b1, 1d768-1d76e 3c3, 1d770-1d780 3b1, 1d783-1d788 3c4, 1d790-1d7a0 3b1,
  1d7a2-1d7a8 3c3, 1d7aa-1d7ba 3b1, 1d7bd-1d7c2 3c4, 1d7ce-1d7d7 30, 1d7d8-1d7e1 30, 1d7e2-1d7eb
  30, 1d7ec-1d7f5 30, 1d7f6-1d7ff 30, 1e030-1e038 430, 1e039-1e03b 43a, 1e03c-1e046 43e,
  1e048-1e049 44d, 1e051-1e059 430, 1e05a-1e05b 43a, 1e05c-1e05d 43e, 1e05f-1e064 443, 1e065-1e066
  44a, 1e900-1e921 1e922, 1ee00-1ee01 627, 1ee0a-1ee0d 643, 1ee15-1ee16 62a, 1ee2a-1ee2d 643,
  1ee35-1ee36 62a, 1ee6c-1ee6d 645, 1ee75-1ee76 62a, 1ee80-1ee81 627, 1ee84-1ee85 647, 1ee8b-1ee8d
  644, 1ee95-1ee96 62a, 1eeab-1eead 644, 1eeb5-1eeb6 62a, 1f130-1f149 61, 1fbf0-1fbf9 30,
  2f829-2f82a 5305, 2f881-2f882 5de1, 2f8f5-2f8f6 6bba, 2f945-2f946 771e, 2f9e8-2f9e9 92d7"

/-- Ranges of pairs, the first of which is mapped to the second. -/
def paired : Table := .read "
  100-12e, 134-136, 139-13d, 141-147, 14a-176, 179-17d, 182-184, 1a0-1a4, 1b3-1b5, 1cd-1db,
  1de-1ee, 1f8-21e, 222-232, 246-24e, 370-372, 3d8-3ee, 460-480, 48a-4be, 4c1-4cd, 4d0-52e,
  1e00-1e94, 1ea0-1efe, 2c67-2c6b, 2c80-2ce2, 2ceb-2ced, a640-a66c, a680-a69a, a722-a72e,
  a732-a76e, a779-a77b, a77e-a786, a790-a792, a796-a7a8, a7b4-a7c2, a7c7-a7c9, a7cc-a7da"

def plain? (character : Char) : Option (List Char) :=
  if excluded.lists character then none
  else if ignored.lists character then some []
  else match shifted.row? character, paired.row? character, replaced.row? character with
    | some row, _, _ => some (row.numbers.map fun first => Char.ofNat (first + row.offset character))
    | none, some row, _ =>
        some [if row.offset character % 2 = 0 then Char.ofNat (character.toNat + 1) else character]
    | none, none, some row => some row.characters
    | none, none, none => some [character]

end TeacherDirectory.DomainName
