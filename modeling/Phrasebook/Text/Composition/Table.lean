import Phrasebook.Text.CodeMap
import Phrasebook.Text.CodeSet

/-! # Composition data

Which characters stand for which pairs of characters, and the combining classes that say how marks
are ordered. Listed are the characters that a host name may hold; what the class of another is does
not matter, and the sets of classes run on over it where that makes them shorter. The syllables of
Hangul are not listed, because they follow from their numbers.
-/

namespace Phrasebook.Text

/-- The characters that stand for a pair, with the pair. -/
def pairs : CodeMap := .ofRows
  [ "e0: 61+300 61+301 61+302 61+303 61+308 61+30a e7: 63+327 65+300 65+301 65+302 65+308 69+300",
    "ed: 69+301 69+302 69+308 f1: 6e+303 6f+300 6f+301 6f+302 6f+303 6f+308 f9: 75+300 75+301",
    "fb: 75+302 75+308 79+301 ff: 79+308 101: 61+304 103: 61+306 105: 61+328 107: 63+301",
    "109: 63+302 10b: 63+307 10d: 63+30c 10f: 64+30c 113: 65+304 115: 65+306 117: 65+307",
    "119: 65+328 11b: 65+30c 11d: 67+302 11f: 67+306 121: 67+307 123: 67+327 125: 68+302",
    "129: 69+303 12b: 69+304 12d: 69+306 12f: 69+328 135: 6a+302 137: 6b+327 13a: 6c+301",
    "13c: 6c+327 13e: 6c+30c 144: 6e+301 146: 6e+327 148: 6e+30c 14d: 6f+304 14f: 6f+306",
    "151: 6f+30b 155: 72+301 157: 72+327 159: 72+30c 15b: 73+301 15d: 73+302 15f: 73+327",
    "161: 73+30c 163: 74+327 165: 74+30c 169: 75+303 16b: 75+304 16d: 75+306 16f: 75+30a",
    "171: 75+30b 173: 75+328 175: 77+302 177: 79+302 17a: 7a+301 17c: 7a+307 17e: 7a+30c",
    "1a1: 6f+31b 1b0: 75+31b 1ce: 61+30c 1d0: 69+30c 1d2: 6f+30c 1d4: 75+30c 1d6: fc+304",
    "1d8: fc+301 1da: fc+30c 1dc: fc+300 1df: e4+304 1e1: 227+304 1e3: e6+304 1e7: 67+30c",
    "1e9: 6b+30c 1eb: 6f+328 1ed: 1eb+304 1ef: 292+30c 6a+30c 1f5: 67+301 1f9: 6e+300 1fb: e5+301",
    "1fd: e6+301 1ff: f8+301 201: 61+30f 203: 61+311 205: 65+30f 207: 65+311 209: 69+30f",
    "20b: 69+311 20d: 6f+30f 20f: 6f+311 211: 72+30f 213: 72+311 215: 75+30f 217: 75+311",
    "219: 73+326 21b: 74+326 21f: 68+30c 227: 61+307 229: 65+327 22b: f6+304 22d: f5+304",
    "22f: 6f+307 231: 22f+304 233: 79+304 390: 3ca+301 3ac: 3b1+301 3b5+301 3b7+301 3b9+301",
    "3b0: 3cb+301 3ca: 3b9+308 3c5+308 3bf+301 3c5+301 3c9+301 439: 438+306 450: 435+300 435+308",
    "453: 433+301 457: 456+308 45c: 43a+301 438+300 443+306 477: 475+30f 4c2: 436+306 4d1: 430+306",
    "4d3: 430+308 4d7: 435+306 4db: 4d9+308 4dd: 436+308 4df: 437+308 4e3: 438+304 4e5: 438+308",
    "4e7: 43e+308 4eb: 4e9+308 4ed: 44d+308 4ef: 443+304 4f1: 443+308 4f3: 443+30b 4f5: 447+308",
    "4f9: 44b+308 622: 627+653 627+654 648+654 627+655 64a+654 6c0: 6d5+654 6c2: 6c1+654",
    "6d3: 6d2+654 929: 928+93c 931: 930+93c 934: 933+93c 9cb: 9c7+9be 9c7+9d7 b48: b47+b56",
    "b4b: b47+b3e b47+b57 b94: b92+bd7 bca: bc6+bbe bc7+bbe bc6+bd7 c48: c46+c56 cc0: cbf+cd5",
    "cc7: cc6+cd5 cc6+cd6 cca: cc6+cc2 cca+cd5 d4a: d46+d3e d47+d3e d46+d57 dda: dd9+dca",
    "ddc: dd9+dcf ddc+dca dd9+ddf 1026: 1025+102e 1b06: 1b05+1b35 1b08: 1b07+1b35 1b0a: 1b09+1b35",
    "1b0c: 1b0b+1b35 1b0e: 1b0d+1b35 1b12: 1b11+1b35 1b3b: 1b3a+1b35 1b3d: 1b3c+1b35",
    "1b40: 1b3e+1b35 1b3f+1b35 1b43: 1b42+1b35 1e01: 61+325 1e03: 62+307 1e05: 62+323 1e07: 62+331",
    "1e09: e7+301 1e0b: 64+307 1e0d: 64+323 1e0f: 64+331 1e11: 64+327 1e13: 64+32d 1e15: 113+300",
    "1e17: 113+301 1e19: 65+32d 1e1b: 65+330 1e1d: 229+306 1e1f: 66+307 1e21: 67+304 1e23: 68+307",
    "1e25: 68+323 1e27: 68+308 1e29: 68+327 1e2b: 68+32e 1e2d: 69+330 1e2f: ef+301 1e31: 6b+301",
    "1e33: 6b+323 1e35: 6b+331 1e37: 6c+323 1e39: 1e37+304 1e3b: 6c+331 1e3d: 6c+32d 1e3f: 6d+301",
    "1e41: 6d+307 1e43: 6d+323 1e45: 6e+307 1e47: 6e+323 1e49: 6e+331 1e4b: 6e+32d 1e4d: f5+301",
    "1e4f: f5+308 1e51: 14d+300 1e53: 14d+301 1e55: 70+301 1e57: 70+307 1e59: 72+307 1e5b: 72+323",
    "1e5d: 1e5b+304 1e5f: 72+331 1e61: 73+307 1e63: 73+323 1e65: 15b+307 1e67: 161+307",
    "1e69: 1e63+307 1e6b: 74+307 1e6d: 74+323 1e6f: 74+331 1e71: 74+32d 1e73: 75+324 1e75: 75+330",
    "1e77: 75+32d 1e79: 169+301 1e7b: 16b+308 1e7d: 76+303 1e7f: 76+323 1e81: 77+300 1e83: 77+301",
    "1e85: 77+308 1e87: 77+307 1e89: 77+323 1e8b: 78+307 1e8d: 78+308 1e8f: 79+307 1e91: 7a+302",
    "1e93: 7a+323 1e95: 7a+331 68+331 74+308 77+30a 79+30a 1ea1: 61+323 1ea3: 61+309 1ea5: e2+301",
    "1ea7: e2+300 1ea9: e2+309 1eab: e2+303 1ead: 1ea1+302 1eaf: 103+301 1eb1: 103+300",
    "1eb3: 103+309 1eb5: 103+303 1eb7: 1ea1+306 1eb9: 65+323 1ebb: 65+309 1ebd: 65+303",
    "1ebf: ea+301 1ec1: ea+300 1ec3: ea+309 1ec5: ea+303 1ec7: 1eb9+302 1ec9: 69+309 1ecb: 69+323",
    "1ecd: 6f+323 1ecf: 6f+309 1ed1: f4+301 1ed3: f4+300 1ed5: f4+309 1ed7: f4+303 1ed9: 1ecd+302",
    "1edb: 1a1+301 1edd: 1a1+300 1edf: 1a1+309 1ee1: 1a1+303 1ee3: 1a1+323 1ee5: 75+323",
    "1ee7: 75+309 1ee9: 1b0+301 1eeb: 1b0+300 1eed: 1b0+309 1eef: 1b0+303 1ef1: 1b0+323",
    "1ef3: 79+300 1ef5: 79+323 1ef7: 79+309 1ef9: 79+303 1f00: 3b1+313 3b1+314 1f00+300 1f01+300",
    "1f04: 1f00+301 1f01+301 1f00+342 1f01+342 1f10: 3b5+313 3b5+314 1f10+300 1f11+300 1f10+301",
    "1f15: 1f11+301 1f20: 3b7+313 3b7+314 1f20+300 1f21+300 1f20+301 1f21+301 1f20+342 1f21+342",
    "1f30: 3b9+313 3b9+314 1f30+300 1f31+300 1f30+301 1f31+301 1f30+342 1f31+342 1f40: 3bf+313",
    "1f41: 3bf+314 1f40+300 1f41+300 1f40+301 1f41+301 1f50: 3c5+313 3c5+314 1f50+300 1f51+300",
    "1f54: 1f50+301 1f51+301 1f50+342 1f51+342 1f60: 3c9+313 3c9+314 1f60+300 1f61+300 1f60+301",
    "1f65: 1f61+301 1f60+342 1f61+342 1f70: 3b1+300 1f72: 3b5+300 1f74: 3b7+300 1f76: 3b9+300",
    "1f78: 3bf+300 1f7a: 3c5+300 1f7c: 3c9+300 1fb0: 3b1+306 3b1+304 1fb6: 3b1+342 1fc6: 3b7+342",
    "1fd0: 3b9+306 3b9+304 3ca+300 1fd6: 3b9+342 3ca+342 1fe0: 3c5+306 3c5+304 3cb+300",
    "1fe4: 3c1+313 3c1+314 3c5+342 3cb+342 1ff6: 3c9+342 219a: 2190+338 2192+338 21ae: 2194+338",
    "21cd: 21d0+338 21d4+338 21d2+338 2204: 2203+338 2209: 2208+338 220c: 220b+338 2224: 2223+338",
    "2226: 2225+338 2241: 223c+338 2244: 2243+338 2247: 2245+338 2249: 2248+338 2260: 3d+338",
    "2262: 2261+338 226d: 224d+338 3c+338 3e+338 2264+338 2265+338 2274: 2272+338 2273+338",
    "2278: 2276+338 2277+338 2280: 227a+338 227b+338 2284: 2282+338 2283+338 2288: 2286+338",
    "2289: 2287+338 22ac: 22a2+338 22a8+338 22a9+338 22ab+338 22e0: 227c+338 227d+338 2291+338",
    "22e3: 2292+338 22ea: 22b2+338 22b3+338 22b4+338 22b5+338 304c: 304b+3099 304e: 304d+3099",
    "3050: 304f+3099 3052: 3051+3099 3054: 3053+3099 3056: 3055+3099 3058: 3057+3099",
    "305a: 3059+3099 305c: 305b+3099 305e: 305d+3099 3060: 305f+3099 3062: 3061+3099",
    "3065: 3064+3099 3067: 3066+3099 3069: 3068+3099 3070: 306f+3099 306f+309a 3073: 3072+3099",
    "3074: 3072+309a 3076: 3075+3099 3075+309a 3079: 3078+3099 3078+309a 307c: 307b+3099 307b+309a",
    "3094: 3046+3099 309e: 309d+3099 30ac: 30ab+3099 30ae: 30ad+3099 30b0: 30af+3099",
    "30b2: 30b1+3099 30b4: 30b3+3099 30b6: 30b5+3099 30b8: 30b7+3099 30ba: 30b9+3099",
    "30bc: 30bb+3099 30be: 30bd+3099 30c0: 30bf+3099 30c2: 30c1+3099 30c5: 30c4+3099",
    "30c7: 30c6+3099 30c9: 30c8+3099 30d0: 30cf+3099 30cf+309a 30d3: 30d2+3099 30d2+309a",
    "30d6: 30d5+3099 30d5+309a 30d9: 30d8+3099 30d8+309a 30dc: 30db+3099 30db+309a 30f4: 30a6+3099",
    "30f7: 30ef+3099 30f0+3099 30f1+3099 30f2+3099 30fe: 30fd+3099 105c9: 105d2+307",
    "105e4: 105da+307 1109a: 11099+110ba 1109c: 1109b+110ba 110ab: 110a5+110ba 1112e: 11131+11127",
    "1112f: 11132+11127 1134b: 11347+1133e 11347+11357 11383: 11382+113c9 11385: 11384+113bb",
    "1138e: 1138b+113c2 11391: 11390+113c9 113c5: 113c2+113c2 113c7: 113c2+113b8 113c2+113c9",
    "114bb: 114b9+114ba 114b9+114b0 114be: 114b9+114bd 115ba: 115b8+115af 115b9+115af",
    "11938: 11935+11930 16121: 1611e+1611e 1611e+16129 1611e+1611f 16129+1611f 1611e+16120",
    "16126: 16121+1611f 16122+1611f 16121+16120 16d68: 16d67+16d67 16d63+16d67 16d69+16d67" ]

/-- The combining classes other than zero, with their characters. -/
def combiningClasses : List (Nat × CodeSet) :=
  [ (1, ⟨[0x334, 0x339, 0x1CD4, 0x1CD5, 0x1CE2, 0x1CE9, 0x20D2, 0x20D4, 0x20D8, 0x20DB, 0x20E5,
        0x20E7, 0x20EA, 0x20EC, 0x10A39, 0x10A3A, 0x16AF0, 0x16AF5, 0x1BC9E, 0x1BC9F, 0x1D167,
        0x1D16A]⟩),
    (6, ⟨[0x16FF0, 0x16FF2]⟩),
    (7, ⟨[0x93C, 0x93D, 0x9BC, 0x9BD, 0xA3C, 0xA3E, 0xABC, 0xABD, 0xB3C, 0xB3D, 0xC3C, 0xC3D, 0xCBC,
        0xCBD, 0x1037, 0x1038, 0x1B34, 0x1B35, 0x1BE6, 0x1BE7, 0x1C37, 0x1C3B, 0xA9B3, 0xA9B4,
        0x110BA, 0x110BB, 0x11173, 0x11174, 0x111CA, 0x111CB, 0x11236, 0x11237, 0x112E9, 0x112EA,
        0x1133B, 0x1133D, 0x11446, 0x11447, 0x114C3, 0x114C4, 0x115C0, 0x115C1, 0x116B7, 0x116B8,
        0x1183A, 0x1183B, 0x11943, 0x11944, 0x11D42, 0x11D43, 0x1E94A, 0x1E94B]⟩),
    (8, ⟨[0x3099, 0x309D]⟩),
    (9, ⟨[0x94D, 0x94E, 0x9CD, 0x9CE, 0xA4D, 0xA51, 0xACD, 0xAD0, 0xB4D, 0xB55, 0xBCD, 0xBD0, 0xC4D,
        0xC55, 0xCCD, 0xCD5, 0xD3B, 0xD3D, 0xD4D, 0xD4E, 0xDCA, 0xDCF, 0xE3A, 0xE3F, 0xEBA, 0xEBB,
        0xF84, 0xF85, 0x1039, 0x103B, 0x1714, 0x171F, 0x1734, 0x1735, 0x17D2, 0x17D3, 0x1A60,
        0x1A61, 0x1B44, 0x1B45, 0x1BAA, 0x1BAC, 0x1BF2, 0x1BFC, 0x2D7F, 0x2D80, 0xA806, 0xA807,
        0xA82C, 0xA830, 0xA8C4, 0xA8C5, 0xA953, 0xA95F, 0xA9C0, 0xA9C1, 0xAAF6, 0xAB01, 0xABED,
        0xABF0, 0x10A3F, 0x10A40, 0x11046, 0x11047, 0x11070, 0x11071, 0x1107F, 0x11080, 0x110B9,
        0x110BA, 0x11133, 0x11136, 0x111C0, 0x111C1, 0x11235, 0x11236, 0x112EA, 0x112F0, 0x1134D,
        0x11350, 0x113CE, 0x113D1, 0x11442, 0x11443, 0x114C2, 0x114C3, 0x115BF, 0x115C0, 0x1163F,
        0x11640, 0x116B6, 0x116B7, 0x1172B, 0x11730, 0x11839, 0x1183A, 0x1193D, 0x1193F, 0x119E0,
        0x119E1, 0x11A34, 0x11A35, 0x11A47, 0x11A50, 0x11A99, 0x11A9A, 0x11C3F, 0x11C40, 0x11D44,
        0x11D46, 0x11D97, 0x11D98, 0x11F41, 0x11F43, 0x1612F, 0x16130]⟩),
    (10, ⟨[0x5B0, 0x5B1]⟩),
    (11, ⟨[0x5B1, 0x5B2]⟩),
    (12, ⟨[0x5B2, 0x5B3]⟩),
    (13, ⟨[0x5B3, 0x5B4]⟩),
    (14, ⟨[0x5B4, 0x5B5]⟩),
    (15, ⟨[0x5B5, 0x5B6]⟩),
    (16, ⟨[0x5B6, 0x5B7]⟩),
    (17, ⟨[0x5B7, 0x5B8]⟩),
    (18, ⟨[0x5B8, 0x5B9, 0x5C7, 0x5D0]⟩),
    (19, ⟨[0x5B9, 0x5BB]⟩),
    (20, ⟨[0x5BB, 0x5BC]⟩),
    (21, ⟨[0x5BC, 0x5BD]⟩),
    (22, ⟨[0x5BD, 0x5BE]⟩),
    (23, ⟨[0x5BF, 0x5C0]⟩),
    (24, ⟨[0x5C1, 0x5C2]⟩),
    (25, ⟨[0x5C2, 0x5C3]⟩),
    (26, ⟨[0xFB1E, 0xFBB2]⟩),
    (27, ⟨[0x64B, 0x64C, 0x8F0, 0x8F1]⟩),
    (28, ⟨[0x64C, 0x64D, 0x8F1, 0x8F2]⟩),
    (29, ⟨[0x64D, 0x64E, 0x8F2, 0x8F3]⟩),
    (30, ⟨[0x618, 0x619, 0x64E, 0x64F]⟩),
    (31, ⟨[0x619, 0x61A, 0x64F, 0x650]⟩),
    (32, ⟨[0x61A, 0x61B, 0x650, 0x651]⟩),
    (33, ⟨[0x651, 0x652]⟩),
    (34, ⟨[0x652, 0x653]⟩),
    (35, ⟨[0x670, 0x671]⟩),
    (36, ⟨[0x711, 0x712]⟩),
    (84, ⟨[0xC55, 0xC56]⟩),
    (91, ⟨[0xC56, 0xC58]⟩),
    (103, ⟨[0xE38, 0xE3A]⟩),
    (107, ⟨[0xE48, 0xE4C]⟩),
    (118, ⟨[0xEB8, 0xEBA]⟩),
    (122, ⟨[0xEC8, 0xECC]⟩),
    (129, ⟨[0xF71, 0xF72]⟩),
    (130, ⟨[0xF72, 0xF74, 0xF7A, 0xF7E, 0xF80, 0xF82]⟩),
    (132, ⟨[0xF74, 0xF7A]⟩),
    (202, ⟨[0x321, 0x323, 0x327, 0x329, 0x1DD0, 0x1DD1]⟩),
    (214, ⟨[0x1DCE, 0x1DCF]⟩),
    (216, ⟨[0x31B, 0x31C, 0xF39, 0xF3A, 0x1D165, 0x1D167, 0x1D16E, 0x1D17B]⟩),
    (218, ⟨[0x1DFA, 0x1DFB, 0x302A, 0x302B]⟩),
    (220, ⟨[0x316, 0x31A, 0x31C, 0x321, 0x323, 0x327, 0x329, 0x334, 0x339, 0x33D, 0x347, 0x34A,
        0x34D, 0x350, 0x353, 0x357, 0x359, 0x35B, 0x591, 0x592, 0x596, 0x597, 0x59B, 0x59C, 0x5A2,
        0x5A8, 0x5AA, 0x5AB, 0x5C5, 0x5C6, 0x655, 0x657, 0x65C, 0x65D, 0x65F, 0x660, 0x6E3, 0x6E4,
        0x6EA, 0x6EB, 0x6ED, 0x6EE, 0x731, 0x732, 0x734, 0x735, 0x737, 0x73A, 0x73B, 0x73D, 0x73E,
        0x73F, 0x742, 0x743, 0x744, 0x745, 0x746, 0x747, 0x748, 0x749, 0x7F2, 0x7F3, 0x7FD, 0x7FE,
        0x859, 0x85E, 0x899, 0x89C, 0x8CF, 0x8D4, 0x8E3, 0x8E4, 0x8E6, 0x8E7, 0x8E9, 0x8EA, 0x8ED,
        0x8F0, 0x8F6, 0x8F7, 0x8F9, 0x8FB, 0x952, 0x953, 0xF18, 0xF1A, 0xF35, 0xF36, 0xF37, 0xF38,
        0xFC6, 0xFC7, 0x108D, 0x108E, 0x193B, 0x1940, 0x1A18, 0x1A19, 0x1A7F, 0x1A80, 0x1AB5,
        0x1ABB, 0x1ABD, 0x1ABE, 0x1ABF, 0x1AC1, 0x1AC3, 0x1AC5, 0x1ACA, 0x1ACB, 0x1ADD, 0x1AE0,
        0x1AE6, 0x1AE7, 0x1B6C, 0x1B6D, 0x1CD5, 0x1CDA, 0x1CDC, 0x1CE0, 0x1CED, 0x1CEE, 0x1DC2,
        0x1DC3, 0x1DCA, 0x1DCB, 0x1DCF, 0x1DD0, 0x1DF9, 0x1DFA, 0x1DFD, 0x1DFE, 0x1DFF, 0x1E01,
        0x20E8, 0x20E9, 0x20EC, 0x20F0, 0xA92B, 0xA92E, 0xAAB4, 0xAAB5, 0xFE27, 0xFE2E, 0x101FD,
        0x10280, 0x102E0, 0x102E1, 0x10A0D, 0x10A0E, 0x10A3A, 0x10A3F, 0x10AE6, 0x10AEB, 0x10EFA,
        0x10EFC, 0x10EFD, 0x10F00, 0x10F46, 0x10F48, 0x10F4B, 0x10F4C, 0x10F4D, 0x10F51, 0x10F83,
        0x10F84, 0x10F85, 0x10F86, 0x1D17B, 0x1D183, 0x1D18A, 0x1D18C, 0x1E4EE, 0x1E4EF, 0x1E5EF,
        0x1E5F0, 0x1E8D0, 0x1E922]⟩),
    (222, ⟨[0x59A, 0x59B, 0x5AD, 0x5AE, 0x1939, 0x193A, 0x302D, 0x302E]⟩),
    (224, ⟨[0x302E, 0x3030]⟩),
    (226, ⟨[0x1D16D, 0x1D16E]⟩),
    (228, ⟨[0x5AE, 0x5AF, 0x18A9, 0x18AA, 0x1DF7, 0x1DF9, 0x302B, 0x302C]⟩),
    (230, ⟨[0x300, 0x315, 0x33D, 0x347, 0x34A, 0x34D, 0x350, 0x353, 0x357, 0x358, 0x35B, 0x35C,
        0x363, 0x371, 0x483, 0x488, 0x592, 0x596, 0x597, 0x59A, 0x59C, 0x5A2, 0x5A8, 0x5AA, 0x5AB,
        0x5AD, 0x5AF, 0x5B0, 0x5C4, 0x5C5, 0x610, 0x618, 0x653, 0x655, 0x657, 0x65C, 0x65D, 0x65F,
        0x6D6, 0x6DE, 0x6DF, 0x6E3, 0x6E4, 0x6E5, 0x6E7, 0x6E9, 0x6EB, 0x6ED, 0x730, 0x731, 0x732,
        0x734, 0x735, 0x737, 0x73A, 0x73B, 0x73D, 0x73E, 0x73F, 0x742, 0x743, 0x744, 0x745, 0x746,
        0x747, 0x748, 0x749, 0x74D, 0x7EB, 0x7F2, 0x7F3, 0x7F4, 0x816, 0x81A, 0x81B, 0x824, 0x825,
        0x828, 0x829, 0x830, 0x897, 0x899, 0x89C, 0x8A0, 0x8CA, 0x8CF, 0x8D4, 0x8E3, 0x8E4, 0x8E6,
        0x8E7, 0x8E9, 0x8EA, 0x8ED, 0x8F3, 0x8F6, 0x8F7, 0x8F9, 0x8FB, 0x900, 0x951, 0x952, 0x953,
        0x955, 0x9FE, 0xA01, 0xF82, 0xF84, 0xF86, 0xF88, 0x135D, 0x1360, 0x17DD, 0x17E0, 0x193A,
        0x193B, 0x1A17, 0x1A18, 0x1A75, 0x1A7F, 0x1AB0, 0x1AB5, 0x1ABB, 0x1ABD, 0x1AC1, 0x1AC3,
        0x1AC5, 0x1ACA, 0x1ACB, 0x1ADD, 0x1AE0, 0x1AE6, 0x1AE7, 0x1AEB, 0x1B6B, 0x1B6C, 0x1B6D,
        0x1B74, 0x1CD0, 0x1CD3, 0x1CDA, 0x1CDC, 0x1CE0, 0x1CE1, 0x1CF4, 0x1CF5, 0x1CF8, 0x1CFA,
        0x1DC0, 0x1DC2, 0x1DC3, 0x1DCA, 0x1DCB, 0x1DCD, 0x1DD1, 0x1DF6, 0x1DFB, 0x1DFC, 0x1DFE,
        0x1DFF, 0x20D0, 0x20D2, 0x20D4, 0x20D8, 0x20DB, 0x20DD, 0x20E1, 0x20E2, 0x20E7, 0x20E8,
        0x20E9, 0x20EA, 0x20F0, 0x2104, 0x2CEF, 0x2CF3, 0x2DE0, 0x2E00, 0xA66F, 0xA670, 0xA674,
        0xA67E, 0xA69E, 0xA6A0, 0xA6F0, 0xA6F2, 0xA8E0, 0xA8F2, 0xAAB0, 0xAAB1, 0xAAB2, 0xAAB4,
        0xAAB7, 0xAAB9, 0xAABE, 0xAAC0, 0xAAC1, 0xAAC2, 0xFE20, 0xFE27, 0xFE2E, 0xFE45, 0x10376,
        0x10380, 0x10A0F, 0x10A10, 0x10A38, 0x10A39, 0x10AE5, 0x10AE6, 0x10D24, 0x10D30, 0x10D69,
        0x10D6E, 0x10EAB, 0x10EAD, 0x10F48, 0x10F4B, 0x10F4C, 0x10F4D, 0x10F82, 0x10F83, 0x10F84,
        0x10F85, 0x11100, 0x11103, 0x11366, 0x11380, 0x1145E, 0x1145F, 0x16B30, 0x16B37, 0x1D185,
        0x1D18A, 0x1D1AA, 0x1D1AE, 0x1D242, 0x1D245, 0x1E000, 0x1E100, 0x1E130, 0x1E137, 0x1E2AE,
        0x1E2C0, 0x1E2EC, 0x1E2F0, 0x1E4EF, 0x1E4F0, 0x1E5EE, 0x1E5EF, 0x1E6E3, 0x1E6E4, 0x1E6E6,
        0x1E6E7, 0x1E6EE, 0x1E6F0, 0x1E6F5, 0x1E6FE, 0x1E944, 0x1E94A]⟩),
    (232, ⟨[0x315, 0x316, 0x31A, 0x31B, 0x358, 0x359, 0x1DF6, 0x1DF7, 0x302C, 0x302D, 0x1E4EC,
        0x1E4EE]⟩),
    (233, ⟨[0x35C, 0x35D, 0x35F, 0x360, 0x362, 0x363, 0x1DFC, 0x1DFD]⟩),
    (234, ⟨[0x35D, 0x35F, 0x360, 0x362, 0x1AEB, 0x1B00, 0x1DCD, 0x1DCE]⟩) ]

end Phrasebook.Text
