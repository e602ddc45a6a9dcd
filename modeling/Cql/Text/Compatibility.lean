/-!
The characters with the Unicode property NFKC_Quick_Check=No: those that never occur in a text in
normalization form KC, because they are variants of other characters or always composed differently.
-/

namespace Cql.Text

/-- First and last characters of the ranges, in ascending order. -/
def variantRanges : Array (Nat × Nat) :=
  #[
    (0xA0, 0xA0), (0xA8, 0xA8), (0xAA, 0xAA), (0xAF, 0xAF), (0xB2, 0xB5), (0xB8, 0xBA),
    (0xBC, 0xBE), (0x132, 0x133), (0x13F, 0x140), (0x149, 0x149), (0x17F, 0x17F), (0x1C4, 0x1CC),
    (0x1F1, 0x1F3), (0x2B0, 0x2B8), (0x2D8, 0x2DD), (0x2E0, 0x2E4), (0x340, 0x341), (0x343, 0x344),
    (0x374, 0x374), (0x37A, 0x37A), (0x37E, 0x37E), (0x384, 0x385), (0x387, 0x387), (0x3D0, 0x3D6),
    (0x3F0, 0x3F2), (0x3F4, 0x3F5), (0x3F9, 0x3F9), (0x587, 0x587), (0x58B, 0x58B), (0x675, 0x678),
    (0x958, 0x95F), (0x9DC, 0x9DD), (0x9DF, 0x9DF), (0xA33, 0xA33), (0xA36, 0xA36), (0xA59, 0xA5B),
    (0xA5E, 0xA5E), (0xB5C, 0xB5D), (0xE33, 0xE33), (0xEB3, 0xEB3), (0xEDC, 0xEDD), (0xF0C, 0xF0C),
    (0xF43, 0xF43), (0xF4D, 0xF4D), (0xF52, 0xF52), (0xF57, 0xF57), (0xF5C, 0xF5C), (0xF69, 0xF69),
    (0xF73, 0xF73), (0xF75, 0xF79), (0xF81, 0xF81), (0xF93, 0xF93), (0xF9D, 0xF9D), (0xFA2, 0xFA2),
    (0xFA7, 0xFA7), (0xFAC, 0xFAC), (0xFB9, 0xFB9), (0x10FC, 0x10FC), (0x1D2C, 0x1D2E),
    (0x1D30, 0x1D3A), (0x1D3C, 0x1D4D), (0x1D4F, 0x1D6A), (0x1D78, 0x1D78), (0x1D9B, 0x1DBF),
    (0x1E9A, 0x1E9B), (0x1F71, 0x1F71), (0x1F73, 0x1F73), (0x1F75, 0x1F75), (0x1F77, 0x1F77),
    (0x1F79, 0x1F79), (0x1F7B, 0x1F7B), (0x1F7D, 0x1F7D), (0x1FBB, 0x1FBB), (0x1FBD, 0x1FC1),
    (0x1FC9, 0x1FC9), (0x1FCB, 0x1FCB), (0x1FCD, 0x1FCF), (0x1FD3, 0x1FD3), (0x1FDB, 0x1FDB),
    (0x1FDD, 0x1FDF), (0x1FE3, 0x1FE3), (0x1FEB, 0x1FEB), (0x1FED, 0x1FEF), (0x1FF9, 0x1FF9),
    (0x1FFB, 0x1FFB), (0x1FFD, 0x1FFE), (0x2000, 0x200A), (0x2011, 0x2011), (0x2017, 0x2017),
    (0x2024, 0x2026), (0x202F, 0x202F), (0x2033, 0x2034), (0x2036, 0x2037), (0x203C, 0x203C),
    (0x203E, 0x203E), (0x2047, 0x2049), (0x2057, 0x2057), (0x205F, 0x205F), (0x2070, 0x2071),
    (0x2074, 0x208E), (0x2090, 0x209C), (0x20A8, 0x20A8), (0x2100, 0x2103), (0x2105, 0x2107),
    (0x2109, 0x2113), (0x2115, 0x2116), (0x2119, 0x211D), (0x2120, 0x2122), (0x2124, 0x2124),
    (0x2126, 0x2126), (0x2128, 0x2128), (0x212A, 0x212D), (0x212F, 0x2131), (0x2133, 0x2139),
    (0x213B, 0x2140), (0x2145, 0x2149), (0x2150, 0x217F), (0x2189, 0x2189), (0x222C, 0x222D),
    (0x222F, 0x2230), (0x2329, 0x232A), (0x2460, 0x24EA), (0x2A0C, 0x2A0C), (0x2A74, 0x2A76),
    (0x2ADC, 0x2ADC), (0x2C7C, 0x2C7D), (0x2D6F, 0x2D6F), (0x2E9F, 0x2E9F), (0x2EF3, 0x2EF3),
    (0x2F00, 0x2FD5), (0x3000, 0x3000), (0x3036, 0x3036), (0x3038, 0x303A), (0x309B, 0x309C),
    (0x309F, 0x309F), (0x30FF, 0x30FF), (0x3131, 0x318E), (0x3192, 0x319F), (0x3200, 0x321E),
    (0x3220, 0x3247), (0x3250, 0x327E), (0x3280, 0x33FF), (0xA69C, 0xA69D), (0xA770, 0xA770),
    (0xA7F1, 0xA7F4), (0xA7F8, 0xA7F9), (0xAB5C, 0xAB5F), (0xAB69, 0xAB69), (0xF900, 0xFA0D),
    (0xFA10, 0xFA10), (0xFA12, 0xFA12), (0xFA15, 0xFA1E), (0xFA20, 0xFA20), (0xFA22, 0xFA22),
    (0xFA25, 0xFA26), (0xFA2A, 0xFA6D), (0xFA70, 0xFAD9), (0xFB00, 0xFB06), (0xFB13, 0xFB17),
    (0xFB1D, 0xFB1D), (0xFB1F, 0xFB36), (0xFB38, 0xFB3C), (0xFB3E, 0xFB3E), (0xFB40, 0xFB41),
    (0xFB43, 0xFB44), (0xFB46, 0xFBB1), (0xFBD3, 0xFD3D), (0xFD50, 0xFD8F), (0xFD92, 0xFDC7),
    (0xFDF0, 0xFDFC), (0xFE10, 0xFE19), (0xFE30, 0xFE44), (0xFE47, 0xFE52), (0xFE54, 0xFE66),
    (0xFE68, 0xFE6B), (0xFE70, 0xFE72), (0xFE74, 0xFE74), (0xFE76, 0xFEFC), (0xFF01, 0xFFBE),
    (0xFFC2, 0xFFC7), (0xFFCA, 0xFFCF), (0xFFD2, 0xFFD7), (0xFFDA, 0xFFDC), (0xFFE0, 0xFFE6),
    (0xFFE8, 0xFFEE), (0x10781, 0x10785), (0x10787, 0x107B0), (0x107B2, 0x107BA),
    (0x1CCD6, 0x1CCF9), (0x1D15E, 0x1D164), (0x1D1BB, 0x1D1C0), (0x1D400, 0x1D454),
    (0x1D456, 0x1D49C), (0x1D49E, 0x1D49F), (0x1D4A2, 0x1D4A2), (0x1D4A5, 0x1D4A6),
    (0x1D4A9, 0x1D4AC), (0x1D4AE, 0x1D4B9), (0x1D4BB, 0x1D4BB), (0x1D4BD, 0x1D4C3),
    (0x1D4C5, 0x1D505), (0x1D507, 0x1D50A), (0x1D50D, 0x1D514), (0x1D516, 0x1D51C),
    (0x1D51E, 0x1D539), (0x1D53B, 0x1D53E), (0x1D540, 0x1D544), (0x1D546, 0x1D546),
    (0x1D54A, 0x1D550), (0x1D552, 0x1D6A5), (0x1D6A8, 0x1D7CB), (0x1D7CE, 0x1D7FF),
    (0x1E030, 0x1E06D), (0x1EE00, 0x1EE03), (0x1EE05, 0x1EE1F), (0x1EE21, 0x1EE22),
    (0x1EE24, 0x1EE24), (0x1EE27, 0x1EE27), (0x1EE29, 0x1EE32), (0x1EE34, 0x1EE37),
    (0x1EE39, 0x1EE39), (0x1EE3B, 0x1EE3B), (0x1EE42, 0x1EE42), (0x1EE47, 0x1EE47),
    (0x1EE49, 0x1EE49), (0x1EE4B, 0x1EE4B), (0x1EE4D, 0x1EE4F), (0x1EE51, 0x1EE52),
    (0x1EE54, 0x1EE54), (0x1EE57, 0x1EE57), (0x1EE59, 0x1EE59), (0x1EE5B, 0x1EE5B),
    (0x1EE5D, 0x1EE5D), (0x1EE5F, 0x1EE5F), (0x1EE61, 0x1EE62), (0x1EE64, 0x1EE64),
    (0x1EE67, 0x1EE6A), (0x1EE6C, 0x1EE72), (0x1EE74, 0x1EE77), (0x1EE79, 0x1EE7C),
    (0x1EE7E, 0x1EE7E), (0x1EE80, 0x1EE89), (0x1EE8B, 0x1EE9B), (0x1EEA1, 0x1EEA3),
    (0x1EEA5, 0x1EEA9), (0x1EEAB, 0x1EEBB), (0x1F100, 0x1F10A), (0x1F110, 0x1F12E),
    (0x1F130, 0x1F14F), (0x1F16A, 0x1F16C), (0x1F190, 0x1F190), (0x1F200, 0x1F202),
    (0x1F210, 0x1F23B), (0x1F240, 0x1F248), (0x1F250, 0x1F251), (0x1FBF0, 0x1FBF9),
    (0x2F800, 0x2FA1D)]

def isVariant (c : Char) : Bool :=
  variantRanges.any fun r => r.1 ≤ c.toNat && c.toNat ≤ r.2

end Cql.Text
