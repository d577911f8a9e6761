import NamedCapture.CharSet

/-!
The general categories of punctuation and of symbols.
-/

namespace NamedCapture.CharSet

def connectorPunctuation : CharSet := ⟨[
    0x5F, 0x60, 0x203F, 0x2041, 0x2054, 0x2055, 0xFE33, 0xFE35, 0xFE4D, 0xFE50, 0xFF3F, 0xFF40]⟩

def dashPunctuation : CharSet := ⟨[
    0x2D, 0x2E, 0x58A, 0x58B, 0x5BE, 0x5BF, 0x1400, 0x1401, 0x1806, 0x1807, 0x2010, 0x2016,
    0x2E17, 0x2E18, 0x2E1A, 0x2E1B, 0x2E3A, 0x2E3C, 0x2E40, 0x2E41, 0x2E5D, 0x2E5E, 0x301C,
    0x301D, 0x3030, 0x3031, 0x30A0, 0x30A1, 0xFE31, 0xFE33, 0xFE58, 0xFE59, 0xFE63, 0xFE64,
    0xFF0D, 0xFF0E, 0x10D6E, 0x10D6F, 0x10EAD, 0x10EAE]⟩

def openPunctuation : CharSet := ⟨[
    0x28, 0x29, 0x5B, 0x5C, 0x7B, 0x7C, 0xF3A, 0xF3B, 0xF3C, 0xF3D, 0x169B, 0x169C, 0x201A,
    0x201B, 0x201E, 0x201F, 0x2045, 0x2046, 0x207D, 0x207E, 0x208D, 0x208E, 0x2308, 0x2309,
    0x230A, 0x230B, 0x2329, 0x232A, 0x2768, 0x2769, 0x276A, 0x276B, 0x276C, 0x276D, 0x276E,
    0x276F, 0x2770, 0x2771, 0x2772, 0x2773, 0x2774, 0x2775, 0x27C5, 0x27C6, 0x27E6, 0x27E7,
    0x27E8, 0x27E9, 0x27EA, 0x27EB, 0x27EC, 0x27ED, 0x27EE, 0x27EF, 0x2983, 0x2984, 0x2985,
    0x2986, 0x2987, 0x2988, 0x2989, 0x298A, 0x298B, 0x298C, 0x298D, 0x298E, 0x298F, 0x2990,
    0x2991, 0x2992, 0x2993, 0x2994, 0x2995, 0x2996, 0x2997, 0x2998, 0x29D8, 0x29D9, 0x29DA,
    0x29DB, 0x29FC, 0x29FD, 0x2E22, 0x2E23, 0x2E24, 0x2E25, 0x2E26, 0x2E27, 0x2E28, 0x2E29,
    0x2E42, 0x2E43, 0x2E55, 0x2E56, 0x2E57, 0x2E58, 0x2E59, 0x2E5A, 0x2E5B, 0x2E5C, 0x3008,
    0x3009, 0x300A, 0x300B, 0x300C, 0x300D, 0x300E, 0x300F, 0x3010, 0x3011, 0x3014, 0x3015,
    0x3016, 0x3017, 0x3018, 0x3019, 0x301A, 0x301B, 0x301D, 0x301E, 0xFD3F, 0xFD40, 0xFE17,
    0xFE18, 0xFE35, 0xFE36, 0xFE37, 0xFE38, 0xFE39, 0xFE3A, 0xFE3B, 0xFE3C, 0xFE3D, 0xFE3E,
    0xFE3F, 0xFE40, 0xFE41, 0xFE42, 0xFE43, 0xFE44, 0xFE47, 0xFE48, 0xFE59, 0xFE5A, 0xFE5B,
    0xFE5C, 0xFE5D, 0xFE5E, 0xFF08, 0xFF09, 0xFF3B, 0xFF3C, 0xFF5B, 0xFF5C, 0xFF5F, 0xFF60,
    0xFF62, 0xFF63]⟩

def closePunctuation : CharSet := ⟨[
    0x29, 0x2A, 0x5D, 0x5E, 0x7D, 0x7E, 0xF3B, 0xF3C, 0xF3D, 0xF3E, 0x169C, 0x169D, 0x2046,
    0x2047, 0x207E, 0x207F, 0x208E, 0x208F, 0x2309, 0x230A, 0x230B, 0x230C, 0x232A, 0x232B,
    0x2769, 0x276A, 0x276B, 0x276C, 0x276D, 0x276E, 0x276F, 0x2770, 0x2771, 0x2772, 0x2773,
    0x2774, 0x2775, 0x2776, 0x27C6, 0x27C7, 0x27E7, 0x27E8, 0x27E9, 0x27EA, 0x27EB, 0x27EC,
    0x27ED, 0x27EE, 0x27EF, 0x27F0, 0x2984, 0x2985, 0x2986, 0x2987, 0x2988, 0x2989, 0x298A,
    0x298B, 0x298C, 0x298D, 0x298E, 0x298F, 0x2990, 0x2991, 0x2992, 0x2993, 0x2994, 0x2995,
    0x2996, 0x2997, 0x2998, 0x2999, 0x29D9, 0x29DA, 0x29DB, 0x29DC, 0x29FD, 0x29FE, 0x2E23,
    0x2E24, 0x2E25, 0x2E26, 0x2E27, 0x2E28, 0x2E29, 0x2E2A, 0x2E56, 0x2E57, 0x2E58, 0x2E59,
    0x2E5A, 0x2E5B, 0x2E5C, 0x2E5D, 0x3009, 0x300A, 0x300B, 0x300C, 0x300D, 0x300E, 0x300F,
    0x3010, 0x3011, 0x3012, 0x3015, 0x3016, 0x3017, 0x3018, 0x3019, 0x301A, 0x301B, 0x301C,
    0x301E, 0x3020, 0xFD3E, 0xFD3F, 0xFE18, 0xFE19, 0xFE36, 0xFE37, 0xFE38, 0xFE39, 0xFE3A,
    0xFE3B, 0xFE3C, 0xFE3D, 0xFE3E, 0xFE3F, 0xFE40, 0xFE41, 0xFE42, 0xFE43, 0xFE44, 0xFE45,
    0xFE48, 0xFE49, 0xFE5A, 0xFE5B, 0xFE5C, 0xFE5D, 0xFE5E, 0xFE5F, 0xFF09, 0xFF0A, 0xFF3D,
    0xFF3E, 0xFF5D, 0xFF5E, 0xFF60, 0xFF61, 0xFF63, 0xFF64]⟩

def initialPunctuation : CharSet := ⟨[
    0xAB, 0xAC, 0x2018, 0x2019, 0x201B, 0x201D, 0x201F, 0x2020, 0x2039, 0x203A, 0x2E02, 0x2E03,
    0x2E04, 0x2E05, 0x2E09, 0x2E0A, 0x2E0C, 0x2E0D, 0x2E1C, 0x2E1D, 0x2E20, 0x2E21]⟩

def finalPunctuation : CharSet := ⟨[
    0xBB, 0xBC, 0x2019, 0x201A, 0x201D, 0x201E, 0x203A, 0x203B, 0x2E03, 0x2E04, 0x2E05, 0x2E06,
    0x2E0A, 0x2E0B, 0x2E0D, 0x2E0E, 0x2E1D, 0x2E1E, 0x2E21, 0x2E22]⟩

def otherPunctuation : CharSet := ⟨[
    0x21, 0x24, 0x25, 0x28, 0x2A, 0x2B, 0x2C, 0x2D, 0x2E, 0x30, 0x3A, 0x3C, 0x3F, 0x41, 0x5C,
    0x5D, 0xA1, 0xA2, 0xA7, 0xA8, 0xB6, 0xB8, 0xBF, 0xC0, 0x37E, 0x37F, 0x387, 0x388, 0x55A,
    0x560, 0x589, 0x58A, 0x5C0, 0x5C1, 0x5C3, 0x5C4, 0x5C6, 0x5C7, 0x5F3, 0x5F5, 0x609, 0x60B,
    0x60C, 0x60E, 0x61B, 0x61C, 0x61D, 0x620, 0x66A, 0x66E, 0x6D4, 0x6D5, 0x700, 0x70E, 0x7F7,
    0x7FA, 0x830, 0x83F, 0x85E, 0x85F, 0x964, 0x966, 0x970, 0x971, 0x9FD, 0x9FE, 0xA76, 0xA77,
    0xAF0, 0xAF1, 0xC77, 0xC78, 0xC84, 0xC85, 0xDF4, 0xDF5, 0xE4F, 0xE50, 0xE5A, 0xE5C, 0xF04,
    0xF13, 0xF14, 0xF15, 0xF85, 0xF86, 0xFD0, 0xFD5, 0xFD9, 0xFDB, 0x104A, 0x1050, 0x10FB, 0x10FC,
    0x1360, 0x1369, 0x166E, 0x166F, 0x16EB, 0x16EE, 0x1735, 0x1737, 0x17D4, 0x17D7, 0x17D8,
    0x17DB, 0x1800, 0x1806, 0x1807, 0x180B, 0x1944, 0x1946, 0x1A1E, 0x1A20, 0x1AA0, 0x1AA7,
    0x1AA8, 0x1AAE, 0x1B4E, 0x1B50, 0x1B5A, 0x1B61, 0x1B7D, 0x1B80, 0x1BFC, 0x1C00, 0x1C3B,
    0x1C40, 0x1C7E, 0x1C80, 0x1CC0, 0x1CC8, 0x1CD3, 0x1CD4, 0x2016, 0x2018, 0x2020, 0x2028,
    0x2030, 0x2039, 0x203B, 0x203F, 0x2041, 0x2044, 0x2047, 0x2052, 0x2053, 0x2054, 0x2055,
    0x205F, 0x2CF9, 0x2CFD, 0x2CFE, 0x2D00, 0x2D70, 0x2D71, 0x2E00, 0x2E02, 0x2E06, 0x2E09,
    0x2E0B, 0x2E0C, 0x2E0E, 0x2E17, 0x2E18, 0x2E1A, 0x2E1B, 0x2E1C, 0x2E1E, 0x2E20, 0x2E2A,
    0x2E2F, 0x2E30, 0x2E3A, 0x2E3C, 0x2E40, 0x2E41, 0x2E42, 0x2E43, 0x2E50, 0x2E52, 0x2E55,
    0x3001, 0x3004, 0x303D, 0x303E, 0x30FB, 0x30FC, 0xA4FE, 0xA500, 0xA60D, 0xA610, 0xA673,
    0xA674, 0xA67E, 0xA67F, 0xA6F2, 0xA6F8, 0xA874, 0xA878, 0xA8CE, 0xA8D0, 0xA8F8, 0xA8FB,
    0xA8FC, 0xA8FD, 0xA92E, 0xA930, 0xA95F, 0xA960, 0xA9C1, 0xA9CE, 0xA9DE, 0xA9E0, 0xAA5C,
    0xAA60, 0xAADE, 0xAAE0, 0xAAF0, 0xAAF2, 0xABEB, 0xABEC, 0xFE10, 0xFE17, 0xFE19, 0xFE1A,
    0xFE30, 0xFE31, 0xFE45, 0xFE47, 0xFE49, 0xFE4D, 0xFE50, 0xFE53, 0xFE54, 0xFE58, 0xFE5F,
    0xFE62, 0xFE68, 0xFE69, 0xFE6A, 0xFE6C, 0xFF01, 0xFF04, 0xFF05, 0xFF08, 0xFF0A, 0xFF0B,
    0xFF0C, 0xFF0D, 0xFF0E, 0xFF10, 0xFF1A, 0xFF1C, 0xFF1F, 0xFF21, 0xFF3C, 0xFF3D, 0xFF61,
    0xFF62, 0xFF64, 0xFF66, 0x10100, 0x10103, 0x1039F, 0x103A0, 0x103D0, 0x103D1, 0x1056F,
    0x10570, 0x10857, 0x10858, 0x1091F, 0x10920, 0x1093F, 0x10940, 0x10A50, 0x10A59, 0x10A7F,
    0x10A80, 0x10AF0, 0x10AF7, 0x10B39, 0x10B40, 0x10B99, 0x10B9D, 0x10F55, 0x10F5A, 0x10F86,
    0x10F8A, 0x11047, 0x1104E, 0x110BB, 0x110BD, 0x110BE, 0x110C2, 0x11140, 0x11144, 0x11174,
    0x11176, 0x111C5, 0x111C9, 0x111CD, 0x111CE, 0x111DB, 0x111DC, 0x111DD, 0x111E0, 0x11238,
    0x1123E, 0x112A9, 0x112AA, 0x113D4, 0x113D6, 0x113D7, 0x113D9, 0x1144B, 0x11450, 0x1145A,
    0x1145C, 0x1145D, 0x1145E, 0x114C6, 0x114C7, 0x115C1, 0x115D8, 0x11641, 0x11644, 0x11660,
    0x1166D, 0x116B9, 0x116BA, 0x1173C, 0x1173F, 0x1183B, 0x1183C, 0x11944, 0x11947, 0x119E2,
    0x119E3, 0x11A3F, 0x11A47, 0x11A9A, 0x11A9D, 0x11A9E, 0x11AA3, 0x11B00, 0x11B0A, 0x11BE1,
    0x11BE2, 0x11C41, 0x11C46, 0x11C70, 0x11C72, 0x11EF7, 0x11EF9, 0x11F43, 0x11F50, 0x11FFF,
    0x12000, 0x12470, 0x12475, 0x12FF1, 0x12FF3, 0x16A6E, 0x16A70, 0x16AF5, 0x16AF6, 0x16B37,
    0x16B3C, 0x16B44, 0x16B45, 0x16D6D, 0x16D70, 0x16E97, 0x16E9B, 0x16FE2, 0x16FE3, 0x1BC9F,
    0x1BCA0, 0x1DA87, 0x1DA8C, 0x1E5FF, 0x1E600, 0x1E95E, 0x1E960]⟩

def mathSymbol : CharSet := ⟨[
    0x2B, 0x2C, 0x3C, 0x3F, 0x7C, 0x7D, 0x7E, 0x7F, 0xAC, 0xAD, 0xB1, 0xB2, 0xD7, 0xD8, 0xF7,
    0xF8, 0x3F6, 0x3F7, 0x606, 0x609, 0x2044, 0x2045, 0x2052, 0x2053, 0x207A, 0x207D, 0x208A,
    0x208D, 0x2118, 0x2119, 0x2140, 0x2145, 0x214B, 0x214C, 0x2190, 0x2195, 0x219A, 0x219C,
    0x21A0, 0x21A1, 0x21A3, 0x21A4, 0x21A6, 0x21A7, 0x21AE, 0x21AF, 0x21CE, 0x21D0, 0x21D2,
    0x21D3, 0x21D4, 0x21D5, 0x21F4, 0x2300, 0x2320, 0x2322, 0x237C, 0x237D, 0x239B, 0x23B4,
    0x23DC, 0x23E2, 0x25B7, 0x25B8, 0x25C1, 0x25C2, 0x25F8, 0x2600, 0x266F, 0x2670, 0x27C0,
    0x27C5, 0x27C7, 0x27E6, 0x27F0, 0x2800, 0x2900, 0x2983, 0x2999, 0x29D8, 0x29DC, 0x29FC,
    0x29FE, 0x2B00, 0x2B30, 0x2B45, 0x2B47, 0x2B4D, 0xFB29, 0xFB2A, 0xFE62, 0xFE63, 0xFE64,
    0xFE67, 0xFF0B, 0xFF0C, 0xFF1C, 0xFF1F, 0xFF5C, 0xFF5D, 0xFF5E, 0xFF5F, 0xFFE2, 0xFFE3,
    0xFFE9, 0xFFED, 0x10D8E, 0x10D90, 0x1D6C1, 0x1D6C2, 0x1D6DB, 0x1D6DC, 0x1D6FB, 0x1D6FC,
    0x1D715, 0x1D716, 0x1D735, 0x1D736, 0x1D74F, 0x1D750, 0x1D76F, 0x1D770, 0x1D789, 0x1D78A,
    0x1D7A9, 0x1D7AA, 0x1D7C3, 0x1D7C4, 0x1EEF0, 0x1EEF2]⟩

def currencySymbol : CharSet := ⟨[
    0x24, 0x25, 0xA2, 0xA6, 0x58F, 0x590, 0x60B, 0x60C, 0x7FE, 0x800, 0x9F2, 0x9F4, 0x9FB, 0x9FC,
    0xAF1, 0xAF2, 0xBF9, 0xBFA, 0xE3F, 0xE40, 0x17DB, 0x17DC, 0x20A0, 0x20C1, 0xA838, 0xA839,
    0xFDFC, 0xFDFD, 0xFE69, 0xFE6A, 0xFF04, 0xFF05, 0xFFE0, 0xFFE2, 0xFFE5, 0xFFE7, 0x11FDD,
    0x11FE1, 0x1E2FF, 0x1E300, 0x1ECB0, 0x1ECB1]⟩

def modifierSymbol : CharSet := ⟨[
    0x5E, 0x5F, 0x60, 0x61, 0xA8, 0xA9, 0xAF, 0xB0, 0xB4, 0xB5, 0xB8, 0xB9, 0x2C2, 0x2C6, 0x2D2,
    0x2E0, 0x2E5, 0x2EC, 0x2ED, 0x2EE, 0x2EF, 0x300, 0x375, 0x376, 0x384, 0x386, 0x888, 0x889,
    0x1FBD, 0x1FBE, 0x1FBF, 0x1FC2, 0x1FCD, 0x1FD0, 0x1FDD, 0x1FE0, 0x1FED, 0x1FF0, 0x1FFD,
    0x1FFF, 0x309B, 0x309D, 0xA700, 0xA717, 0xA720, 0xA722, 0xA789, 0xA78B, 0xAB5B, 0xAB5C,
    0xAB6A, 0xAB6C, 0xFBB2, 0xFBC3, 0xFF3E, 0xFF3F, 0xFF40, 0xFF41, 0xFFE3, 0xFFE4, 0x1F3FB,
    0x1F400]⟩

def otherSymbol : CharSet := ⟨[
    0xA6, 0xA7, 0xA9, 0xAA, 0xAE, 0xAF, 0xB0, 0xB1, 0x482, 0x483, 0x58D, 0x58F, 0x60E, 0x610,
    0x6DE, 0x6DF, 0x6E9, 0x6EA, 0x6FD, 0x6FF, 0x7F6, 0x7F7, 0x9FA, 0x9FB, 0xB70, 0xB71, 0xBF3,
    0xBF9, 0xBFA, 0xBFB, 0xC7F, 0xC80, 0xD4F, 0xD50, 0xD79, 0xD7A, 0xF01, 0xF04, 0xF13, 0xF14,
    0xF15, 0xF18, 0xF1A, 0xF20, 0xF34, 0xF35, 0xF36, 0xF37, 0xF38, 0xF39, 0xFBE, 0xFC6, 0xFC7,
    0xFCD, 0xFCE, 0xFD0, 0xFD5, 0xFD9, 0x109E, 0x10A0, 0x1390, 0x139A, 0x166D, 0x166E, 0x1940,
    0x1941, 0x19DE, 0x1A00, 0x1B61, 0x1B6B, 0x1B74, 0x1B7D, 0x2100, 0x2102, 0x2103, 0x2107,
    0x2108, 0x210A, 0x2114, 0x2115, 0x2116, 0x2118, 0x211E, 0x2124, 0x2125, 0x2126, 0x2127,
    0x2128, 0x2129, 0x212A, 0x212E, 0x212F, 0x213A, 0x213C, 0x214A, 0x214B, 0x214C, 0x214E,
    0x214F, 0x2150, 0x218A, 0x218C, 0x2195, 0x219A, 0x219C, 0x21A0, 0x21A1, 0x21A3, 0x21A4,
    0x21A6, 0x21A7, 0x21AE, 0x21AF, 0x21CE, 0x21D0, 0x21D2, 0x21D3, 0x21D4, 0x21D5, 0x21F4,
    0x2300, 0x2308, 0x230C, 0x2320, 0x2322, 0x2329, 0x232B, 0x237C, 0x237D, 0x239B, 0x23B4,
    0x23DC, 0x23E2, 0x242A, 0x2440, 0x244B, 0x249C, 0x24EA, 0x2500, 0x25B7, 0x25B8, 0x25C1,
    0x25C2, 0x25F8, 0x2600, 0x266F, 0x2670, 0x2768, 0x2794, 0x27C0, 0x2800, 0x2900, 0x2B00,
    0x2B30, 0x2B45, 0x2B47, 0x2B4D, 0x2B74, 0x2B76, 0x2B96, 0x2B97, 0x2C00, 0x2CE5, 0x2CEB,
    0x2E50, 0x2E52, 0x2E80, 0x2E9A, 0x2E9B, 0x2EF4, 0x2F00, 0x2FD6, 0x2FF0, 0x3000, 0x3004,
    0x3005, 0x3012, 0x3014, 0x3020, 0x3021, 0x3036, 0x3038, 0x303E, 0x3040, 0x3190, 0x3192,
    0x3196, 0x31A0, 0x31C0, 0x31E6, 0x31EF, 0x31F0, 0x3200, 0x321F, 0x322A, 0x3248, 0x3250,
    0x3251, 0x3260, 0x3280, 0x328A, 0x32B1, 0x32C0, 0x3400, 0x4DC0, 0x4E00, 0xA490, 0xA4C7,
    0xA828, 0xA82C, 0xA836, 0xA838, 0xA839, 0xA83A, 0xAA77, 0xAA7A, 0xFD40, 0xFD50, 0xFDCF,
    0xFDD0, 0xFDFD, 0xFE00, 0xFFE4, 0xFFE5, 0xFFE8, 0xFFE9, 0xFFED, 0xFFEF, 0xFFFC, 0xFFFE,
    0x10137, 0x10140, 0x10179, 0x1018A, 0x1018C, 0x1018F, 0x10190, 0x1019D, 0x101A0, 0x101A1,
    0x101D0, 0x101FD, 0x10877, 0x10879, 0x10AC8, 0x10AC9, 0x1173F, 0x11740, 0x11FD5, 0x11FDD,
    0x11FE1, 0x11FF2, 0x16B3C, 0x16B40, 0x16B45, 0x16B46, 0x1BC9C, 0x1BC9D, 0x1CC00, 0x1CCF0,
    0x1CD00, 0x1CEB4, 0x1CF50, 0x1CFC4, 0x1D000, 0x1D0F6, 0x1D100, 0x1D127, 0x1D129, 0x1D165,
    0x1D16A, 0x1D16D, 0x1D183, 0x1D185, 0x1D18C, 0x1D1AA, 0x1D1AE, 0x1D1EB, 0x1D200, 0x1D242,
    0x1D245, 0x1D246, 0x1D300, 0x1D357, 0x1D800, 0x1DA00, 0x1DA37, 0x1DA3B, 0x1DA6D, 0x1DA75,
    0x1DA76, 0x1DA84, 0x1DA85, 0x1DA87, 0x1E14F, 0x1E150, 0x1ECAC, 0x1ECAD, 0x1ED2E, 0x1ED2F,
    0x1F000, 0x1F02C, 0x1F030, 0x1F094, 0x1F0A0, 0x1F0AF, 0x1F0B1, 0x1F0C0, 0x1F0C1, 0x1F0D0,
    0x1F0D1, 0x1F0F6, 0x1F10D, 0x1F1AE, 0x1F1E6, 0x1F203, 0x1F210, 0x1F23C, 0x1F240, 0x1F249,
    0x1F250, 0x1F252, 0x1F260, 0x1F266, 0x1F300, 0x1F3FB, 0x1F400, 0x1F6D8, 0x1F6DC, 0x1F6ED,
    0x1F6F0, 0x1F6FD, 0x1F700, 0x1F777, 0x1F77B, 0x1F7DA, 0x1F7E0, 0x1F7EC, 0x1F7F0, 0x1F7F1,
    0x1F800, 0x1F80C, 0x1F810, 0x1F848, 0x1F850, 0x1F85A, 0x1F860, 0x1F888, 0x1F890, 0x1F8AE,
    0x1F8B0, 0x1F8BC, 0x1F8C0, 0x1F8C2, 0x1F900, 0x1FA54, 0x1FA60, 0x1FA6E, 0x1FA70, 0x1FA7D,
    0x1FA80, 0x1FA8A, 0x1FA8F, 0x1FAC7, 0x1FACE, 0x1FADD, 0x1FADF, 0x1FAEA, 0x1FAF0, 0x1FAF9,
    0x1FB00, 0x1FB93, 0x1FB94, 0x1FBF0]⟩

end NamedCapture.CharSet
