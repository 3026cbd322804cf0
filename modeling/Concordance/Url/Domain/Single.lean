/-!
# Characters with a simpler form

Many characters are written in a domain name as another character: wide and narrow forms, letters
in a circle or in a mathematical font, forms that a letter takes inside a word.

## Main definitions

* `simpleForms`: such characters, in runs
* `findSimple`: the simpler form of a code point
-/

namespace Concordance.Domain

/-- `count` characters from `first` on. Their forms start with `target` and go up by `stride`. -/
structure SimpleRun where
  first : Nat
  count : Nat
  stride : Nat
  target : Nat

set_option maxRecDepth 20000 in
/-- The characters with a simpler form, in ascending order. Uppercase letters are not listed. -/
def simpleForms : List SimpleRun := [
  ⟨0xA0, 1, 1, 0x20⟩, ⟨0xAA, 1, 1, 0x61⟩, ⟨0xB2, 2, 1, 0x32⟩, ⟨0xB5, 1, 1, 0x3BC⟩,
  ⟨0xB9, 1, 1, 0x31⟩, ⟨0xBA, 1, 1, 0x6F⟩, ⟨0x17F, 1, 1, 0x73⟩, ⟨0x2B0, 1, 1, 0x68⟩,
  ⟨0x2B1, 1, 1, 0x266⟩, ⟨0x2B2, 1, 1, 0x6A⟩, ⟨0x2B3, 1, 1, 0x72⟩, ⟨0x2B4, 1, 1, 0x279⟩,
  ⟨0x2B5, 1, 1, 0x27B⟩, ⟨0x2B6, 1, 1, 0x281⟩, ⟨0x2B7, 1, 1, 0x77⟩, ⟨0x2B8, 1, 1, 0x79⟩,
  ⟨0x2E0, 1, 1, 0x263⟩, ⟨0x2E1, 1, 1, 0x6C⟩, ⟨0x2E2, 1, 1, 0x73⟩, ⟨0x2E3, 1, 1, 0x78⟩,
  ⟨0x2E4, 1, 1, 0x295⟩, ⟨0x345, 1, 1, 0x3B9⟩, ⟨0x3D0, 1, 1, 0x3B2⟩, ⟨0x3D1, 1, 1, 0x3B8⟩,
  ⟨0x3D2, 1, 1, 0x3C5⟩, ⟨0x3D3, 1, 1, 0x3CD⟩, ⟨0x3D4, 1, 1, 0x3CB⟩, ⟨0x3D5, 1, 1, 0x3C6⟩,
  ⟨0x3D6, 1, 1, 0x3C0⟩, ⟨0x3F0, 1, 1, 0x3BA⟩, ⟨0x3F1, 1, 1, 0x3C1⟩, ⟨0x3F2, 1, 1, 0x3C3⟩,
  ⟨0x3F5, 1, 1, 0x3B5⟩, ⟨0x3F9, 1, 1, 0x3C3⟩, ⟨0xF0C, 1, 1, 0xF0B⟩, ⟨0x10FC, 1, 1, 0x10DC⟩,
  ⟨0x13A0, 86, 1, 0x13A0⟩, ⟨0x13F8, 6, 1, 0x13F0⟩, ⟨0x1C80, 1, 1, 0x432⟩, ⟨0x1C81, 1, 1, 0x434⟩,
  ⟨0x1C82, 1, 1, 0x43E⟩, ⟨0x1C83, 2, 1, 0x441⟩, ⟨0x1C85, 1, 1, 0x442⟩, ⟨0x1C86, 1, 1, 0x44A⟩,
  ⟨0x1C87, 1, 1, 0x463⟩, ⟨0x1C88, 1, 1, 0xA64B⟩, ⟨0x1D2C, 1, 1, 0x61⟩, ⟨0x1D2D, 1, 1, 0xE6⟩,
  ⟨0x1D2E, 1, 1, 0x62⟩, ⟨0x1D30, 2, 1, 0x64⟩, ⟨0x1D32, 1, 1, 0x1DD⟩, ⟨0x1D33, 8, 1, 0x67⟩,
  ⟨0x1D3C, 1, 1, 0x6F⟩, ⟨0x1D3D, 1, 1, 0x223⟩, ⟨0x1D3E, 1, 1, 0x70⟩, ⟨0x1D3F, 1, 1, 0x72⟩,
  ⟨0x1D40, 2, 1, 0x74⟩, ⟨0x1D42, 1, 1, 0x77⟩, ⟨0x1D43, 1, 1, 0x61⟩, ⟨0x1D44, 2, 1, 0x250⟩,
  ⟨0x1D46, 1, 1, 0x1D02⟩, ⟨0x1D47, 1, 1, 0x62⟩, ⟨0x1D48, 2, 1, 0x64⟩, ⟨0x1D4A, 1, 1, 0x259⟩,
  ⟨0x1D4B, 2, 1, 0x25B⟩, ⟨0x1D4D, 1, 1, 0x67⟩, ⟨0x1D4F, 1, 1, 0x6B⟩, ⟨0x1D50, 1, 1, 0x6D⟩,
  ⟨0x1D51, 1, 1, 0x14B⟩, ⟨0x1D52, 1, 1, 0x6F⟩, ⟨0x1D53, 1, 1, 0x254⟩, ⟨0x1D54, 2, 1, 0x1D16⟩,
  ⟨0x1D56, 1, 1, 0x70⟩, ⟨0x1D57, 2, 1, 0x74⟩, ⟨0x1D59, 1, 1, 0x1D1D⟩, ⟨0x1D5A, 1, 1, 0x26F⟩,
  ⟨0x1D5B, 1, 1, 0x76⟩, ⟨0x1D5C, 1, 1, 0x1D25⟩, ⟨0x1D5D, 3, 1, 0x3B2⟩, ⟨0x1D60, 2, 1, 0x3C6⟩,
  ⟨0x1D62, 1, 1, 0x69⟩, ⟨0x1D63, 1, 1, 0x72⟩, ⟨0x1D64, 2, 1, 0x75⟩, ⟨0x1D66, 2, 1, 0x3B2⟩,
  ⟨0x1D68, 1, 1, 0x3C1⟩, ⟨0x1D69, 2, 1, 0x3C6⟩, ⟨0x1D78, 1, 1, 0x43D⟩, ⟨0x1D9B, 1, 1, 0x252⟩,
  ⟨0x1D9C, 1, 1, 0x63⟩, ⟨0x1D9D, 1, 1, 0x255⟩, ⟨0x1D9E, 1, 1, 0xF0⟩, ⟨0x1D9F, 1, 1, 0x25C⟩,
  ⟨0x1DA0, 1, 1, 0x66⟩, ⟨0x1DA1, 1, 1, 0x25F⟩, ⟨0x1DA2, 1, 1, 0x261⟩, ⟨0x1DA3, 1, 1, 0x265⟩,
  ⟨0x1DA4, 3, 1, 0x268⟩, ⟨0x1DA7, 1, 1, 0x1D7B⟩, ⟨0x1DA8, 1, 1, 0x29D⟩, ⟨0x1DA9, 1, 1, 0x26D⟩,
  ⟨0x1DAA, 1, 1, 0x1D85⟩, ⟨0x1DAB, 1, 1, 0x29F⟩, ⟨0x1DAC, 1, 1, 0x271⟩, ⟨0x1DAD, 1, 1, 0x270⟩,
  ⟨0x1DAE, 4, 1, 0x272⟩, ⟨0x1DB2, 1, 1, 0x278⟩, ⟨0x1DB3, 2, 1, 0x282⟩, ⟨0x1DB5, 1, 1, 0x1AB⟩,
  ⟨0x1DB6, 2, 1, 0x289⟩, ⟨0x1DB8, 1, 1, 0x1D1C⟩, ⟨0x1DB9, 2, 1, 0x28B⟩, ⟨0x1DBB, 1, 1, 0x7A⟩,
  ⟨0x1DBC, 3, 1, 0x290⟩, ⟨0x1DBF, 1, 1, 0x3B8⟩, ⟨0x1E9B, 1, 1, 0x1E61⟩, ⟨0x2000, 11, 0, 0x20⟩,
  ⟨0x2011, 1, 1, 0x2010⟩, ⟨0x202F, 1, 1, 0x20⟩, ⟨0x205F, 1, 1, 0x20⟩, ⟨0x2070, 1, 1, 0x30⟩,
  ⟨0x2071, 1, 1, 0x69⟩, ⟨0x2074, 6, 1, 0x34⟩, ⟨0x207A, 1, 1, 0x2B⟩, ⟨0x207B, 1, 1, 0x2212⟩,
  ⟨0x207C, 1, 1, 0x3D⟩, ⟨0x207D, 2, 1, 0x28⟩, ⟨0x207F, 1, 1, 0x6E⟩, ⟨0x2080, 10, 1, 0x30⟩,
  ⟨0x208A, 1, 1, 0x2B⟩, ⟨0x208B, 1, 1, 0x2212⟩, ⟨0x208C, 1, 1, 0x3D⟩, ⟨0x208D, 2, 1, 0x28⟩,
  ⟨0x2090, 1, 1, 0x61⟩, ⟨0x2091, 1, 1, 0x65⟩, ⟨0x2092, 1, 1, 0x6F⟩, ⟨0x2093, 1, 1, 0x78⟩,
  ⟨0x2094, 1, 1, 0x259⟩, ⟨0x2095, 1, 1, 0x68⟩, ⟨0x2096, 4, 1, 0x6B⟩, ⟨0x209A, 1, 1, 0x70⟩,
  ⟨0x209B, 2, 1, 0x73⟩, ⟨0x2102, 1, 1, 0x63⟩, ⟨0x2107, 1, 1, 0x25B⟩, ⟨0x210A, 2, 1, 0x67⟩,
  ⟨0x210C, 3, 0, 0x68⟩, ⟨0x210F, 1, 1, 0x127⟩, ⟨0x2110, 2, 0, 0x69⟩, ⟨0x2112, 2, 0, 0x6C⟩,
  ⟨0x2115, 1, 1, 0x6E⟩, ⟨0x2119, 3, 1, 0x70⟩, ⟨0x211C, 2, 0, 0x72⟩, ⟨0x2124, 1, 1, 0x7A⟩,
  ⟨0x2128, 1, 1, 0x7A⟩, ⟨0x212C, 2, 1, 0x62⟩, ⟨0x212F, 2, 0, 0x65⟩, ⟨0x2131, 1, 1, 0x66⟩,
  ⟨0x2133, 1, 1, 0x6D⟩, ⟨0x2134, 1, 1, 0x6F⟩, ⟨0x2135, 4, 1, 0x5D0⟩, ⟨0x2139, 1, 1, 0x69⟩,
  ⟨0x213C, 1, 1, 0x3C0⟩, ⟨0x213D, 2, 0, 0x3B3⟩, ⟨0x213F, 1, 1, 0x3C0⟩, ⟨0x2140, 1, 1, 0x2211⟩,
  ⟨0x2145, 2, 0, 0x64⟩, ⟨0x2147, 1, 1, 0x65⟩, ⟨0x2148, 2, 1, 0x69⟩, ⟨0x2160, 1, 1, 0x69⟩,
  ⟨0x2164, 1, 1, 0x76⟩, ⟨0x2169, 1, 1, 0x78⟩, ⟨0x216C, 1, 1, 0x6C⟩, ⟨0x216D, 2, 1, 0x63⟩,
  ⟨0x216F, 1, 1, 0x6D⟩, ⟨0x2170, 1, 1, 0x69⟩, ⟨0x2174, 1, 1, 0x76⟩, ⟨0x2179, 1, 1, 0x78⟩,
  ⟨0x217C, 1, 1, 0x6C⟩, ⟨0x217D, 2, 1, 0x63⟩, ⟨0x217F, 1, 1, 0x6D⟩, ⟨0x2460, 9, 1, 0x31⟩,
  ⟨0x24B6, 26, 1, 0x61⟩, ⟨0x24D0, 26, 1, 0x61⟩, ⟨0x24EA, 1, 1, 0x30⟩, ⟨0x2C7C, 1, 1, 0x6A⟩,
  ⟨0x2C7D, 1, 1, 0x76⟩, ⟨0x2D6F, 1, 1, 0x2D61⟩, ⟨0x2E9F, 1, 1, 0x6BCD⟩, ⟨0x2EF3, 1, 1, 0x9F9F⟩,
  ⟨0x2F00, 1, 1, 0x4E00⟩, ⟨0x2F01, 1, 1, 0x4E28⟩, ⟨0x2F02, 1, 1, 0x4E36⟩, ⟨0x2F03, 1, 1, 0x4E3F⟩,
  ⟨0x2F04, 1, 1, 0x4E59⟩, ⟨0x2F05, 1, 1, 0x4E85⟩, ⟨0x2F06, 1, 1, 0x4E8C⟩, ⟨0x2F07, 1, 1, 0x4EA0⟩,
  ⟨0x2F08, 1, 1, 0x4EBA⟩, ⟨0x2F09, 1, 1, 0x513F⟩, ⟨0x2F0A, 1, 1, 0x5165⟩, ⟨0x2F0B, 1, 1, 0x516B⟩,
  ⟨0x2F0C, 1, 1, 0x5182⟩, ⟨0x2F0D, 1, 1, 0x5196⟩, ⟨0x2F0E, 1, 1, 0x51AB⟩, ⟨0x2F0F, 1, 1, 0x51E0⟩,
  ⟨0x2F10, 1, 1, 0x51F5⟩, ⟨0x2F11, 1, 1, 0x5200⟩, ⟨0x2F12, 1, 1, 0x529B⟩, ⟨0x2F13, 1, 1, 0x52F9⟩,
  ⟨0x2F14, 1, 1, 0x5315⟩, ⟨0x2F15, 1, 1, 0x531A⟩, ⟨0x2F16, 1, 1, 0x5338⟩, ⟨0x2F17, 1, 1, 0x5341⟩,
  ⟨0x2F18, 1, 1, 0x535C⟩, ⟨0x2F19, 1, 1, 0x5369⟩, ⟨0x2F1A, 1, 1, 0x5382⟩, ⟨0x2F1B, 1, 1, 0x53B6⟩,
  ⟨0x2F1C, 1, 1, 0x53C8⟩, ⟨0x2F1D, 1, 1, 0x53E3⟩, ⟨0x2F1E, 1, 1, 0x56D7⟩, ⟨0x2F1F, 1, 1, 0x571F⟩,
  ⟨0x2F20, 1, 1, 0x58EB⟩, ⟨0x2F21, 1, 1, 0x5902⟩, ⟨0x2F22, 1, 1, 0x590A⟩, ⟨0x2F23, 1, 1, 0x5915⟩,
  ⟨0x2F24, 1, 1, 0x5927⟩, ⟨0x2F25, 1, 1, 0x5973⟩, ⟨0x2F26, 1, 1, 0x5B50⟩, ⟨0x2F27, 1, 1, 0x5B80⟩,
  ⟨0x2F28, 1, 1, 0x5BF8⟩, ⟨0x2F29, 1, 1, 0x5C0F⟩, ⟨0x2F2A, 1, 1, 0x5C22⟩, ⟨0x2F2B, 1, 1, 0x5C38⟩,
  ⟨0x2F2C, 1, 1, 0x5C6E⟩, ⟨0x2F2D, 1, 1, 0x5C71⟩, ⟨0x2F2E, 1, 1, 0x5DDB⟩, ⟨0x2F2F, 1, 1, 0x5DE5⟩,
  ⟨0x2F30, 1, 1, 0x5DF1⟩, ⟨0x2F31, 1, 1, 0x5DFE⟩, ⟨0x2F32, 1, 1, 0x5E72⟩, ⟨0x2F33, 1, 1, 0x5E7A⟩,
  ⟨0x2F34, 1, 1, 0x5E7F⟩, ⟨0x2F35, 1, 1, 0x5EF4⟩, ⟨0x2F36, 1, 1, 0x5EFE⟩, ⟨0x2F37, 1, 1, 0x5F0B⟩,
  ⟨0x2F38, 1, 1, 0x5F13⟩, ⟨0x2F39, 1, 1, 0x5F50⟩, ⟨0x2F3A, 1, 1, 0x5F61⟩, ⟨0x2F3B, 1, 1, 0x5F73⟩,
  ⟨0x2F3C, 1, 1, 0x5FC3⟩, ⟨0x2F3D, 1, 1, 0x6208⟩, ⟨0x2F3E, 1, 1, 0x6236⟩, ⟨0x2F3F, 1, 1, 0x624B⟩,
  ⟨0x2F40, 1, 1, 0x652F⟩, ⟨0x2F41, 1, 1, 0x6534⟩, ⟨0x2F42, 1, 1, 0x6587⟩, ⟨0x2F43, 1, 1, 0x6597⟩,
  ⟨0x2F44, 1, 1, 0x65A4⟩, ⟨0x2F45, 1, 1, 0x65B9⟩, ⟨0x2F46, 1, 1, 0x65E0⟩, ⟨0x2F47, 1, 1, 0x65E5⟩,
  ⟨0x2F48, 1, 1, 0x66F0⟩, ⟨0x2F49, 1, 1, 0x6708⟩, ⟨0x2F4A, 1, 1, 0x6728⟩, ⟨0x2F4B, 1, 1, 0x6B20⟩,
  ⟨0x2F4C, 1, 1, 0x6B62⟩, ⟨0x2F4D, 1, 1, 0x6B79⟩, ⟨0x2F4E, 1, 1, 0x6BB3⟩, ⟨0x2F4F, 1, 1, 0x6BCB⟩,
  ⟨0x2F50, 1, 1, 0x6BD4⟩, ⟨0x2F51, 1, 1, 0x6BDB⟩, ⟨0x2F52, 1, 1, 0x6C0F⟩, ⟨0x2F53, 1, 1, 0x6C14⟩,
  ⟨0x2F54, 1, 1, 0x6C34⟩, ⟨0x2F55, 1, 1, 0x706B⟩, ⟨0x2F56, 1, 1, 0x722A⟩, ⟨0x2F57, 1, 1, 0x7236⟩,
  ⟨0x2F58, 1, 1, 0x723B⟩, ⟨0x2F59, 1, 1, 0x723F⟩, ⟨0x2F5A, 1, 1, 0x7247⟩, ⟨0x2F5B, 1, 1, 0x7259⟩,
  ⟨0x2F5C, 1, 1, 0x725B⟩, ⟨0x2F5D, 1, 1, 0x72AC⟩, ⟨0x2F5E, 1, 1, 0x7384⟩, ⟨0x2F5F, 1, 1, 0x7389⟩,
  ⟨0x2F60, 1, 1, 0x74DC⟩, ⟨0x2F61, 1, 1, 0x74E6⟩, ⟨0x2F62, 1, 1, 0x7518⟩, ⟨0x2F63, 1, 1, 0x751F⟩,
  ⟨0x2F64, 1, 1, 0x7528⟩, ⟨0x2F65, 1, 1, 0x7530⟩, ⟨0x2F66, 1, 1, 0x758B⟩, ⟨0x2F67, 1, 1, 0x7592⟩,
  ⟨0x2F68, 1, 1, 0x7676⟩, ⟨0x2F69, 1, 1, 0x767D⟩, ⟨0x2F6A, 1, 1, 0x76AE⟩, ⟨0x2F6B, 1, 1, 0x76BF⟩,
  ⟨0x2F6C, 1, 1, 0x76EE⟩, ⟨0x2F6D, 1, 1, 0x77DB⟩, ⟨0x2F6E, 1, 1, 0x77E2⟩, ⟨0x2F6F, 1, 1, 0x77F3⟩,
  ⟨0x2F70, 1, 1, 0x793A⟩, ⟨0x2F71, 1, 1, 0x79B8⟩, ⟨0x2F72, 1, 1, 0x79BE⟩, ⟨0x2F73, 1, 1, 0x7A74⟩,
  ⟨0x2F74, 1, 1, 0x7ACB⟩, ⟨0x2F75, 1, 1, 0x7AF9⟩, ⟨0x2F76, 1, 1, 0x7C73⟩, ⟨0x2F77, 1, 1, 0x7CF8⟩,
  ⟨0x2F78, 1, 1, 0x7F36⟩, ⟨0x2F79, 1, 1, 0x7F51⟩, ⟨0x2F7A, 1, 1, 0x7F8A⟩, ⟨0x2F7B, 1, 1, 0x7FBD⟩,
  ⟨0x2F7C, 1, 1, 0x8001⟩, ⟨0x2F7D, 1, 1, 0x800C⟩, ⟨0x2F7E, 1, 1, 0x8012⟩, ⟨0x2F7F, 1, 1, 0x8033⟩,
  ⟨0x2F80, 1, 1, 0x807F⟩, ⟨0x2F81, 1, 1, 0x8089⟩, ⟨0x2F82, 1, 1, 0x81E3⟩, ⟨0x2F83, 1, 1, 0x81EA⟩,
  ⟨0x2F84, 1, 1, 0x81F3⟩, ⟨0x2F85, 1, 1, 0x81FC⟩, ⟨0x2F86, 1, 1, 0x820C⟩, ⟨0x2F87, 1, 1, 0x821B⟩,
  ⟨0x2F88, 1, 1, 0x821F⟩, ⟨0x2F89, 1, 1, 0x826E⟩, ⟨0x2F8A, 1, 1, 0x8272⟩, ⟨0x2F8B, 1, 1, 0x8278⟩,
  ⟨0x2F8C, 1, 1, 0x864D⟩, ⟨0x2F8D, 1, 1, 0x866B⟩, ⟨0x2F8E, 1, 1, 0x8840⟩, ⟨0x2F8F, 1, 1, 0x884C⟩,
  ⟨0x2F90, 1, 1, 0x8863⟩, ⟨0x2F91, 1, 1, 0x897E⟩, ⟨0x2F92, 1, 1, 0x898B⟩, ⟨0x2F93, 1, 1, 0x89D2⟩,
  ⟨0x2F94, 1, 1, 0x8A00⟩, ⟨0x2F95, 1, 1, 0x8C37⟩, ⟨0x2F96, 1, 1, 0x8C46⟩, ⟨0x2F97, 1, 1, 0x8C55⟩,
  ⟨0x2F98, 1, 1, 0x8C78⟩, ⟨0x2F99, 1, 1, 0x8C9D⟩, ⟨0x2F9A, 1, 1, 0x8D64⟩, ⟨0x2F9B, 1, 1, 0x8D70⟩,
  ⟨0x2F9C, 1, 1, 0x8DB3⟩, ⟨0x2F9D, 1, 1, 0x8EAB⟩, ⟨0x2F9E, 1, 1, 0x8ECA⟩, ⟨0x2F9F, 1, 1, 0x8F9B⟩,
  ⟨0x2FA0, 1, 1, 0x8FB0⟩, ⟨0x2FA1, 1, 1, 0x8FB5⟩, ⟨0x2FA2, 1, 1, 0x9091⟩, ⟨0x2FA3, 1, 1, 0x9149⟩,
  ⟨0x2FA4, 1, 1, 0x91C6⟩, ⟨0x2FA5, 1, 1, 0x91CC⟩, ⟨0x2FA6, 1, 1, 0x91D1⟩, ⟨0x2FA7, 1, 1, 0x9577⟩,
  ⟨0x2FA8, 1, 1, 0x9580⟩, ⟨0x2FA9, 1, 1, 0x961C⟩, ⟨0x2FAA, 1, 1, 0x96B6⟩, ⟨0x2FAB, 1, 1, 0x96B9⟩,
  ⟨0x2FAC, 1, 1, 0x96E8⟩, ⟨0x2FAD, 1, 1, 0x9751⟩, ⟨0x2FAE, 1, 1, 0x975E⟩, ⟨0x2FAF, 1, 1, 0x9762⟩,
  ⟨0x2FB0, 1, 1, 0x9769⟩, ⟨0x2FB1, 1, 1, 0x97CB⟩, ⟨0x2FB2, 1, 1, 0x97ED⟩, ⟨0x2FB3, 1, 1, 0x97F3⟩,
  ⟨0x2FB4, 1, 1, 0x9801⟩, ⟨0x2FB5, 1, 1, 0x98A8⟩, ⟨0x2FB6, 1, 1, 0x98DB⟩, ⟨0x2FB7, 1, 1, 0x98DF⟩,
  ⟨0x2FB8, 1, 1, 0x9996⟩, ⟨0x2FB9, 1, 1, 0x9999⟩, ⟨0x2FBA, 1, 1, 0x99AC⟩, ⟨0x2FBB, 1, 1, 0x9AA8⟩,
  ⟨0x2FBC, 1, 1, 0x9AD8⟩, ⟨0x2FBD, 1, 1, 0x9ADF⟩, ⟨0x2FBE, 1, 1, 0x9B25⟩, ⟨0x2FBF, 1, 1, 0x9B2F⟩,
  ⟨0x2FC0, 1, 1, 0x9B32⟩, ⟨0x2FC1, 1, 1, 0x9B3C⟩, ⟨0x2FC2, 1, 1, 0x9B5A⟩, ⟨0x2FC3, 1, 1, 0x9CE5⟩,
  ⟨0x2FC4, 1, 1, 0x9E75⟩, ⟨0x2FC5, 1, 1, 0x9E7F⟩, ⟨0x2FC6, 1, 1, 0x9EA5⟩, ⟨0x2FC7, 1, 1, 0x9EBB⟩,
  ⟨0x2FC8, 1, 1, 0x9EC3⟩, ⟨0x2FC9, 1, 1, 0x9ECD⟩, ⟨0x2FCA, 1, 1, 0x9ED1⟩, ⟨0x2FCB, 1, 1, 0x9EF9⟩,
  ⟨0x2FCC, 1, 1, 0x9EFD⟩, ⟨0x2FCD, 1, 1, 0x9F0E⟩, ⟨0x2FCE, 1, 1, 0x9F13⟩, ⟨0x2FCF, 1, 1, 0x9F20⟩,
  ⟨0x2FD0, 1, 1, 0x9F3B⟩, ⟨0x2FD1, 1, 1, 0x9F4A⟩, ⟨0x2FD2, 1, 1, 0x9F52⟩, ⟨0x2FD3, 1, 1, 0x9F8D⟩,
  ⟨0x2FD4, 1, 1, 0x9F9C⟩, ⟨0x2FD5, 1, 1, 0x9FA0⟩, ⟨0x3000, 1, 1, 0x20⟩, ⟨0x3002, 1, 1, 0x2E⟩,
  ⟨0x3036, 1, 1, 0x3012⟩, ⟨0x3038, 1, 1, 0x5341⟩, ⟨0x3039, 2, 1, 0x5344⟩, ⟨0x3131, 2, 1, 0x1100⟩,
  ⟨0x3133, 1, 1, 0x11AA⟩, ⟨0x3134, 1, 1, 0x1102⟩, ⟨0x3135, 2, 1, 0x11AC⟩, ⟨0x3137, 3, 1, 0x1103⟩,
  ⟨0x313A, 6, 1, 0x11B0⟩, ⟨0x3140, 1, 1, 0x111A⟩, ⟨0x3141, 3, 1, 0x1106⟩, ⟨0x3144, 1, 1, 0x1121⟩,
  ⟨0x3145, 10, 1, 0x1109⟩, ⟨0x314F, 21, 1, 0x1161⟩, ⟨0x3165, 2, 1, 0x1114⟩, ⟨0x3167, 2, 1, 0x11C7⟩,
  ⟨0x3169, 1, 1, 0x11CC⟩, ⟨0x316A, 1, 1, 0x11CE⟩, ⟨0x316B, 1, 1, 0x11D3⟩, ⟨0x316C, 1, 1, 0x11D7⟩,
  ⟨0x316D, 1, 1, 0x11D9⟩, ⟨0x316E, 1, 1, 0x111C⟩, ⟨0x316F, 1, 1, 0x11DD⟩, ⟨0x3170, 1, 1, 0x11DF⟩,
  ⟨0x3171, 2, 1, 0x111D⟩, ⟨0x3173, 1, 1, 0x1120⟩, ⟨0x3174, 2, 1, 0x1122⟩, ⟨0x3176, 1, 1, 0x1127⟩,
  ⟨0x3177, 1, 1, 0x1129⟩, ⟨0x3178, 5, 1, 0x112B⟩, ⟨0x317D, 1, 1, 0x1132⟩, ⟨0x317E, 1, 1, 0x1136⟩,
  ⟨0x317F, 1, 1, 0x1140⟩, ⟨0x3180, 1, 1, 0x1147⟩, ⟨0x3181, 1, 1, 0x114C⟩, ⟨0x3182, 2, 1, 0x11F1⟩,
  ⟨0x3184, 3, 1, 0x1157⟩, ⟨0x3187, 2, 1, 0x1184⟩, ⟨0x3189, 1, 1, 0x1188⟩, ⟨0x318A, 2, 1, 0x1191⟩,
  ⟨0x318C, 1, 1, 0x1194⟩, ⟨0x318D, 1, 1, 0x119E⟩, ⟨0x318E, 1, 1, 0x11A1⟩, ⟨0x3192, 1, 1, 0x4E00⟩,
  ⟨0x3193, 1, 1, 0x4E8C⟩, ⟨0x3194, 1, 1, 0x4E09⟩, ⟨0x3195, 1, 1, 0x56DB⟩, ⟨0x3196, 1, 1, 0x4E0A⟩,
  ⟨0x3197, 1, 1, 0x4E2D⟩, ⟨0x3198, 1, 1, 0x4E0B⟩, ⟨0x3199, 1, 1, 0x7532⟩, ⟨0x319A, 1, 1, 0x4E59⟩,
  ⟨0x319B, 1, 1, 0x4E19⟩, ⟨0x319C, 1, 1, 0x4E01⟩, ⟨0x319D, 1, 1, 0x5929⟩, ⟨0x319E, 1, 1, 0x5730⟩,
  ⟨0x319F, 1, 1, 0x4EBA⟩, ⟨0x3244, 1, 1, 0x554F⟩, ⟨0x3245, 1, 1, 0x5E7C⟩, ⟨0x3246, 1, 1, 0x6587⟩,
  ⟨0x3247, 1, 1, 0x7B8F⟩, ⟨0x3260, 1, 1, 0x1100⟩, ⟨0x3261, 2, 1, 0x1102⟩, ⟨0x3263, 3, 1, 0x1105⟩,
  ⟨0x3266, 1, 1, 0x1109⟩, ⟨0x3267, 2, 1, 0x110B⟩, ⟨0x3269, 5, 1, 0x110E⟩, ⟨0x326E, 1, 1, 0xAC00⟩,
  ⟨0x326F, 1, 1, 0xB098⟩, ⟨0x3270, 1, 1, 0xB2E4⟩, ⟨0x3271, 1, 1, 0xB77C⟩, ⟨0x3272, 1, 1, 0xB9C8⟩,
  ⟨0x3273, 1, 1, 0xBC14⟩, ⟨0x3274, 1, 1, 0xC0AC⟩, ⟨0x3275, 1, 1, 0xC544⟩, ⟨0x3276, 1, 1, 0xC790⟩,
  ⟨0x3277, 1, 1, 0xCC28⟩, ⟨0x3278, 1, 1, 0xCE74⟩, ⟨0x3279, 1, 1, 0xD0C0⟩, ⟨0x327A, 1, 1, 0xD30C⟩,
  ⟨0x327B, 1, 1, 0xD558⟩, ⟨0x327E, 1, 1, 0xC6B0⟩, ⟨0x3280, 1, 1, 0x4E00⟩, ⟨0x3281, 1, 1, 0x4E8C⟩,
  ⟨0x3282, 1, 1, 0x4E09⟩, ⟨0x3283, 1, 1, 0x56DB⟩, ⟨0x3284, 1, 1, 0x4E94⟩, ⟨0x3285, 1, 1, 0x516D⟩,
  ⟨0x3286, 1, 1, 0x4E03⟩, ⟨0x3287, 1, 1, 0x516B⟩, ⟨0x3288, 1, 1, 0x4E5D⟩, ⟨0x3289, 1, 1, 0x5341⟩,
  ⟨0x328A, 1, 1, 0x6708⟩, ⟨0x328B, 1, 1, 0x706B⟩, ⟨0x328C, 1, 1, 0x6C34⟩, ⟨0x328D, 1, 1, 0x6728⟩,
  ⟨0x328E, 1, 1, 0x91D1⟩, ⟨0x328F, 1, 1, 0x571F⟩, ⟨0x3290, 1, 1, 0x65E5⟩, ⟨0x3291, 1, 1, 0x682A⟩,
  ⟨0x3292, 1, 1, 0x6709⟩, ⟨0x3293, 1, 1, 0x793E⟩, ⟨0x3294, 1, 1, 0x540D⟩, ⟨0x3295, 1, 1, 0x7279⟩,
  ⟨0x3296, 1, 1, 0x8CA1⟩, ⟨0x3297, 1, 1, 0x795D⟩, ⟨0x3298, 1, 1, 0x52B4⟩, ⟨0x3299, 1, 1, 0x79D8⟩,
  ⟨0x329A, 1, 1, 0x7537⟩, ⟨0x329B, 1, 1, 0x5973⟩, ⟨0x329C, 1, 1, 0x9069⟩, ⟨0x329D, 1, 1, 0x512A⟩,
  ⟨0x329E, 1, 1, 0x5370⟩, ⟨0x329F, 1, 1, 0x6CE8⟩, ⟨0x32A0, 1, 1, 0x9805⟩, ⟨0x32A1, 1, 1, 0x4F11⟩,
  ⟨0x32A2, 1, 1, 0x5199⟩, ⟨0x32A3, 1, 1, 0x6B63⟩, ⟨0x32A4, 1, 1, 0x4E0A⟩, ⟨0x32A5, 1, 1, 0x4E2D⟩,
  ⟨0x32A6, 1, 1, 0x4E0B⟩, ⟨0x32A7, 1, 1, 0x5DE6⟩, ⟨0x32A8, 1, 1, 0x53F3⟩, ⟨0x32A9, 1, 1, 0x533B⟩,
  ⟨0x32AA, 1, 1, 0x5B97⟩, ⟨0x32AB, 1, 1, 0x5B66⟩, ⟨0x32AC, 1, 1, 0x76E3⟩, ⟨0x32AD, 1, 1, 0x4F01⟩,
  ⟨0x32AE, 1, 1, 0x8CC7⟩, ⟨0x32AF, 1, 1, 0x5354⟩, ⟨0x32B0, 1, 1, 0x591C⟩, ⟨0x32D0, 1, 1, 0x30A2⟩,
  ⟨0x32D1, 1, 1, 0x30A4⟩, ⟨0x32D2, 1, 1, 0x30A6⟩, ⟨0x32D3, 1, 1, 0x30A8⟩, ⟨0x32D4, 2, 1, 0x30AA⟩,
  ⟨0x32D6, 1, 1, 0x30AD⟩, ⟨0x32D7, 1, 1, 0x30AF⟩, ⟨0x32D8, 1, 1, 0x30B1⟩, ⟨0x32D9, 1, 1, 0x30B3⟩,
  ⟨0x32DA, 1, 1, 0x30B5⟩, ⟨0x32DB, 1, 1, 0x30B7⟩, ⟨0x32DC, 1, 1, 0x30B9⟩, ⟨0x32DD, 1, 1, 0x30BB⟩,
  ⟨0x32DE, 1, 1, 0x30BD⟩, ⟨0x32DF, 1, 1, 0x30BF⟩, ⟨0x32E0, 1, 1, 0x30C1⟩, ⟨0x32E1, 1, 1, 0x30C4⟩,
  ⟨0x32E2, 1, 1, 0x30C6⟩, ⟨0x32E3, 1, 1, 0x30C8⟩, ⟨0x32E4, 6, 1, 0x30CA⟩, ⟨0x32EA, 1, 1, 0x30D2⟩,
  ⟨0x32EB, 1, 1, 0x30D5⟩, ⟨0x32EC, 1, 1, 0x30D8⟩, ⟨0x32ED, 1, 1, 0x30DB⟩, ⟨0x32EE, 5, 1, 0x30DE⟩,
  ⟨0x32F3, 1, 1, 0x30E4⟩, ⟨0x32F4, 1, 1, 0x30E6⟩, ⟨0x32F5, 6, 1, 0x30E8⟩, ⟨0x32FB, 4, 1, 0x30EF⟩,
  ⟨0xA69C, 1, 1, 0x44A⟩, ⟨0xA69D, 1, 1, 0x44C⟩, ⟨0xA770, 1, 1, 0xA76F⟩, ⟨0xA7F1, 1, 1, 0x73⟩,
  ⟨0xA7F2, 1, 1, 0x63⟩, ⟨0xA7F3, 1, 1, 0x66⟩, ⟨0xA7F4, 1, 1, 0x71⟩, ⟨0xA7F8, 1, 1, 0x127⟩,
  ⟨0xA7F9, 1, 1, 0x153⟩, ⟨0xAB5C, 1, 1, 0xA727⟩, ⟨0xAB5D, 1, 1, 0xAB37⟩, ⟨0xAB5E, 1, 1, 0x26B⟩,
  ⟨0xAB5F, 1, 1, 0xAB52⟩, ⟨0xAB69, 1, 1, 0x28D⟩, ⟨0xAB70, 80, 1, 0x13A0⟩, ⟨0xFB20, 1, 1, 0x5E2⟩,
  ⟨0xFB21, 1, 1, 0x5D0⟩, ⟨0xFB22, 2, 1, 0x5D3⟩, ⟨0xFB24, 3, 1, 0x5DB⟩, ⟨0xFB27, 1, 1, 0x5E8⟩,
  ⟨0xFB28, 1, 1, 0x5EA⟩, ⟨0xFB29, 1, 1, 0x2B⟩, ⟨0xFB50, 2, 0, 0x671⟩, ⟨0xFB52, 4, 0, 0x67B⟩,
  ⟨0xFB56, 4, 0, 0x67E⟩, ⟨0xFB5A, 4, 0, 0x680⟩, ⟨0xFB5E, 4, 0, 0x67A⟩, ⟨0xFB62, 4, 0, 0x67F⟩,
  ⟨0xFB66, 4, 0, 0x679⟩, ⟨0xFB6A, 4, 0, 0x6A4⟩, ⟨0xFB6E, 4, 0, 0x6A6⟩, ⟨0xFB72, 4, 0, 0x684⟩,
  ⟨0xFB76, 4, 0, 0x683⟩, ⟨0xFB7A, 4, 0, 0x686⟩, ⟨0xFB7E, 4, 0, 0x687⟩, ⟨0xFB82, 2, 0, 0x68D⟩,
  ⟨0xFB84, 2, 0, 0x68C⟩, ⟨0xFB86, 2, 0, 0x68E⟩, ⟨0xFB88, 2, 0, 0x688⟩, ⟨0xFB8A, 2, 0, 0x698⟩,
  ⟨0xFB8C, 2, 0, 0x691⟩, ⟨0xFB8E, 4, 0, 0x6A9⟩, ⟨0xFB92, 4, 0, 0x6AF⟩, ⟨0xFB96, 4, 0, 0x6B3⟩,
  ⟨0xFB9A, 4, 0, 0x6B1⟩, ⟨0xFB9E, 2, 0, 0x6BA⟩, ⟨0xFBA0, 4, 0, 0x6BB⟩, ⟨0xFBA4, 2, 0, 0x6C0⟩,
  ⟨0xFBA6, 4, 0, 0x6C1⟩, ⟨0xFBAA, 4, 0, 0x6BE⟩, ⟨0xFBAE, 2, 0, 0x6D2⟩, ⟨0xFBB0, 2, 0, 0x6D3⟩,
  ⟨0xFBD3, 4, 0, 0x6AD⟩, ⟨0xFBD7, 2, 0, 0x6C7⟩, ⟨0xFBD9, 2, 0, 0x6C6⟩, ⟨0xFBDB, 2, 0, 0x6C8⟩,
  ⟨0xFBDE, 2, 0, 0x6CB⟩, ⟨0xFBE0, 2, 0, 0x6C5⟩, ⟨0xFBE2, 2, 0, 0x6C9⟩, ⟨0xFBE4, 4, 0, 0x6D0⟩,
  ⟨0xFBE8, 2, 0, 0x649⟩, ⟨0xFBFC, 4, 0, 0x6CC⟩, ⟨0xFE10, 1, 1, 0x2C⟩, ⟨0xFE11, 1, 1, 0x3001⟩,
  ⟨0xFE13, 2, 1, 0x3A⟩, ⟨0xFE15, 1, 1, 0x21⟩, ⟨0xFE16, 1, 1, 0x3F⟩, ⟨0xFE17, 2, 1, 0x3016⟩,
  ⟨0xFE31, 1, 1, 0x2014⟩, ⟨0xFE32, 1, 1, 0x2013⟩, ⟨0xFE33, 2, 0, 0x5F⟩, ⟨0xFE35, 2, 1, 0x28⟩,
  ⟨0xFE37, 1, 1, 0x7B⟩, ⟨0xFE38, 1, 1, 0x7D⟩, ⟨0xFE39, 2, 1, 0x3014⟩, ⟨0xFE3B, 2, 1, 0x3010⟩,
  ⟨0xFE3D, 2, 1, 0x300A⟩, ⟨0xFE3F, 2, 1, 0x3008⟩, ⟨0xFE41, 4, 1, 0x300C⟩, ⟨0xFE47, 1, 1, 0x5B⟩,
  ⟨0xFE48, 1, 1, 0x5D⟩, ⟨0xFE4D, 3, 0, 0x5F⟩, ⟨0xFE50, 1, 1, 0x2C⟩, ⟨0xFE51, 1, 1, 0x3001⟩,
  ⟨0xFE54, 1, 1, 0x3B⟩, ⟨0xFE55, 1, 1, 0x3A⟩, ⟨0xFE56, 1, 1, 0x3F⟩, ⟨0xFE57, 1, 1, 0x21⟩,
  ⟨0xFE58, 1, 1, 0x2014⟩, ⟨0xFE59, 2, 1, 0x28⟩, ⟨0xFE5B, 1, 1, 0x7B⟩, ⟨0xFE5C, 1, 1, 0x7D⟩,
  ⟨0xFE5D, 2, 1, 0x3014⟩, ⟨0xFE5F, 1, 1, 0x23⟩, ⟨0xFE60, 1, 1, 0x26⟩, ⟨0xFE61, 2, 1, 0x2A⟩,
  ⟨0xFE63, 1, 1, 0x2D⟩, ⟨0xFE64, 1, 1, 0x3C⟩, ⟨0xFE65, 1, 1, 0x3E⟩, ⟨0xFE66, 1, 1, 0x3D⟩,
  ⟨0xFE68, 1, 1, 0x5C⟩, ⟨0xFE69, 2, 1, 0x24⟩, ⟨0xFE6B, 1, 1, 0x40⟩, ⟨0xFE80, 2, 1, 0x621⟩,
  ⟨0xFE82, 2, 1, 0x622⟩, ⟨0xFE84, 2, 1, 0x623⟩, ⟨0xFE86, 2, 1, 0x624⟩, ⟨0xFE88, 2, 1, 0x625⟩,
  ⟨0xFE8A, 3, 0, 0x626⟩, ⟨0xFE8D, 2, 0, 0x627⟩, ⟨0xFE8F, 4, 0, 0x628⟩, ⟨0xFE93, 2, 0, 0x629⟩,
  ⟨0xFE95, 4, 0, 0x62A⟩, ⟨0xFE99, 4, 0, 0x62B⟩, ⟨0xFE9D, 4, 0, 0x62C⟩, ⟨0xFEA1, 4, 0, 0x62D⟩,
  ⟨0xFEA5, 4, 0, 0x62E⟩, ⟨0xFEA9, 2, 0, 0x62F⟩, ⟨0xFEAB, 2, 0, 0x630⟩, ⟨0xFEAD, 2, 0, 0x631⟩,
  ⟨0xFEAF, 2, 0, 0x632⟩, ⟨0xFEB1, 4, 0, 0x633⟩, ⟨0xFEB5, 4, 0, 0x634⟩, ⟨0xFEB9, 4, 0, 0x635⟩,
  ⟨0xFEBD, 4, 0, 0x636⟩, ⟨0xFEC1, 4, 0, 0x637⟩, ⟨0xFEC5, 4, 0, 0x638⟩, ⟨0xFEC9, 4, 0, 0x639⟩,
  ⟨0xFECD, 4, 0, 0x63A⟩, ⟨0xFED1, 4, 0, 0x641⟩, ⟨0xFED5, 4, 0, 0x642⟩, ⟨0xFED9, 4, 0, 0x643⟩,
  ⟨0xFEDD, 4, 0, 0x644⟩, ⟨0xFEE1, 4, 0, 0x645⟩, ⟨0xFEE5, 4, 0, 0x646⟩, ⟨0xFEE9, 4, 0, 0x647⟩,
  ⟨0xFEED, 2, 0, 0x648⟩, ⟨0xFEEF, 2, 0, 0x649⟩, ⟨0xFEF1, 4, 0, 0x64A⟩, ⟨0xFF01, 32, 1, 0x21⟩,
  ⟨0xFF21, 26, 1, 0x61⟩, ⟨0xFF3B, 36, 1, 0x5B⟩, ⟨0xFF5F, 2, 1, 0x2985⟩, ⟨0xFF61, 1, 1, 0x2E⟩,
  ⟨0xFF62, 2, 1, 0x300C⟩, ⟨0xFF64, 1, 1, 0x3001⟩, ⟨0xFF65, 1, 1, 0x30FB⟩, ⟨0xFF66, 1, 1, 0x30F2⟩,
  ⟨0xFF67, 1, 1, 0x30A1⟩, ⟨0xFF68, 1, 1, 0x30A3⟩, ⟨0xFF69, 1, 1, 0x30A5⟩, ⟨0xFF6A, 1, 1, 0x30A7⟩,
  ⟨0xFF6B, 1, 1, 0x30A9⟩, ⟨0xFF6C, 1, 1, 0x30E3⟩, ⟨0xFF6D, 1, 1, 0x30E5⟩, ⟨0xFF6E, 1, 1, 0x30E7⟩,
  ⟨0xFF6F, 1, 1, 0x30C3⟩, ⟨0xFF70, 1, 1, 0x30FC⟩, ⟨0xFF71, 1, 1, 0x30A2⟩, ⟨0xFF72, 1, 1, 0x30A4⟩,
  ⟨0xFF73, 1, 1, 0x30A6⟩, ⟨0xFF74, 1, 1, 0x30A8⟩, ⟨0xFF75, 2, 1, 0x30AA⟩, ⟨0xFF77, 1, 1, 0x30AD⟩,
  ⟨0xFF78, 1, 1, 0x30AF⟩, ⟨0xFF79, 1, 1, 0x30B1⟩, ⟨0xFF7A, 1, 1, 0x30B3⟩, ⟨0xFF7B, 1, 1, 0x30B5⟩,
  ⟨0xFF7C, 1, 1, 0x30B7⟩, ⟨0xFF7D, 1, 1, 0x30B9⟩, ⟨0xFF7E, 1, 1, 0x30BB⟩, ⟨0xFF7F, 1, 1, 0x30BD⟩,
  ⟨0xFF80, 1, 1, 0x30BF⟩, ⟨0xFF81, 1, 1, 0x30C1⟩, ⟨0xFF82, 1, 1, 0x30C4⟩, ⟨0xFF83, 1, 1, 0x30C6⟩,
  ⟨0xFF84, 1, 1, 0x30C8⟩, ⟨0xFF85, 6, 1, 0x30CA⟩, ⟨0xFF8B, 1, 1, 0x30D2⟩, ⟨0xFF8C, 1, 1, 0x30D5⟩,
  ⟨0xFF8D, 1, 1, 0x30D8⟩, ⟨0xFF8E, 1, 1, 0x30DB⟩, ⟨0xFF8F, 5, 1, 0x30DE⟩, ⟨0xFF94, 1, 1, 0x30E4⟩,
  ⟨0xFF95, 1, 1, 0x30E6⟩, ⟨0xFF96, 6, 1, 0x30E8⟩, ⟨0xFF9C, 1, 1, 0x30EF⟩, ⟨0xFF9D, 1, 1, 0x30F3⟩,
  ⟨0xFF9E, 2, 1, 0x3099⟩, ⟨0xFFA1, 2, 1, 0x1100⟩, ⟨0xFFA3, 1, 1, 0x11AA⟩, ⟨0xFFA4, 1, 1, 0x1102⟩,
  ⟨0xFFA5, 2, 1, 0x11AC⟩, ⟨0xFFA7, 3, 1, 0x1103⟩, ⟨0xFFAA, 6, 1, 0x11B0⟩, ⟨0xFFB0, 1, 1, 0x111A⟩,
  ⟨0xFFB1, 3, 1, 0x1106⟩, ⟨0xFFB4, 1, 1, 0x1121⟩, ⟨0xFFB5, 10, 1, 0x1109⟩, ⟨0xFFC2, 6, 1, 0x1161⟩,
  ⟨0xFFCA, 6, 1, 0x1167⟩, ⟨0xFFD2, 6, 1, 0x116D⟩, ⟨0xFFDA, 3, 1, 0x1173⟩, ⟨0xFFE0, 2, 1, 0xA2⟩,
  ⟨0xFFE2, 1, 1, 0xAC⟩, ⟨0xFFE4, 1, 1, 0xA6⟩, ⟨0xFFE5, 1, 1, 0xA5⟩, ⟨0xFFE6, 1, 1, 0x20A9⟩,
  ⟨0xFFE8, 1, 1, 0x2502⟩, ⟨0xFFE9, 4, 1, 0x2190⟩, ⟨0xFFED, 1, 1, 0x25A0⟩, ⟨0xFFEE, 1, 1, 0x25CB⟩,
  ⟨0x10781, 2, 1, 0x2D0⟩, ⟨0x10783, 1, 1, 0xE6⟩, ⟨0x10784, 1, 1, 0x299⟩, ⟨0x10785, 1, 1, 0x253⟩,
  ⟨0x10787, 1, 1, 0x2A3⟩, ⟨0x10788, 1, 1, 0xAB66⟩, ⟨0x10789, 1, 1, 0x2A5⟩, ⟨0x1078A, 1, 1, 0x2A4⟩,
  ⟨0x1078B, 2, 1, 0x256⟩, ⟨0x1078D, 1, 1, 0x1D91⟩, ⟨0x1078E, 1, 1, 0x258⟩, ⟨0x1078F, 1, 1, 0x25E⟩,
  ⟨0x10790, 1, 1, 0x2A9⟩, ⟨0x10791, 1, 1, 0x264⟩, ⟨0x10792, 1, 1, 0x262⟩, ⟨0x10793, 1, 1, 0x260⟩,
  ⟨0x10794, 1, 1, 0x29B⟩, ⟨0x10795, 1, 1, 0x127⟩, ⟨0x10796, 1, 1, 0x29C⟩, ⟨0x10797, 1, 1, 0x267⟩,
  ⟨0x10798, 1, 1, 0x284⟩, ⟨0x10799, 2, 1, 0x2AA⟩, ⟨0x1079B, 1, 1, 0x26C⟩, ⟨0x1079C, 1, 1, 0x1DF04⟩,
  ⟨0x1079D, 1, 1, 0xA78E⟩, ⟨0x1079E, 1, 1, 0x26E⟩, ⟨0x1079F, 1, 1, 0x1DF05⟩, ⟨0x107A0, 1, 1, 0x28E⟩,
  ⟨0x107A1, 1, 1, 0x1DF06⟩, ⟨0x107A2, 1, 1, 0xF8⟩, ⟨0x107A3, 2, 1, 0x276⟩, ⟨0x107A5, 1, 1, 0x71⟩,
  ⟨0x107A6, 1, 1, 0x27A⟩, ⟨0x107A7, 1, 1, 0x1DF08⟩, ⟨0x107A8, 2, 1, 0x27D⟩, ⟨0x107AA, 1, 1, 0x280⟩,
  ⟨0x107AB, 1, 1, 0x2A8⟩, ⟨0x107AC, 1, 1, 0x2A6⟩, ⟨0x107AD, 1, 1, 0xAB67⟩, ⟨0x107AE, 1, 1, 0x2A7⟩,
  ⟨0x107AF, 1, 1, 0x288⟩, ⟨0x107B0, 1, 1, 0x2C71⟩, ⟨0x107B2, 1, 1, 0x28F⟩, ⟨0x107B3, 2, 1, 0x2A1⟩,
  ⟨0x107B5, 1, 1, 0x298⟩, ⟨0x107B6, 3, 1, 0x1C0⟩, ⟨0x107B9, 1, 1, 0x1DF0A⟩,
  ⟨0x107BA, 1, 1, 0x1DF1E⟩, ⟨0x1CCD6, 26, 1, 0x61⟩, ⟨0x1CCF0, 10, 1, 0x30⟩, ⟨0x1D400, 26, 1, 0x61⟩,
  ⟨0x1D41A, 26, 1, 0x61⟩, ⟨0x1D434, 26, 1, 0x61⟩, ⟨0x1D44E, 7, 1, 0x61⟩, ⟨0x1D456, 18, 1, 0x69⟩,
  ⟨0x1D468, 26, 1, 0x61⟩, ⟨0x1D482, 26, 1, 0x61⟩, ⟨0x1D49C, 1, 1, 0x61⟩, ⟨0x1D49E, 2, 1, 0x63⟩,
  ⟨0x1D4A2, 1, 1, 0x67⟩, ⟨0x1D4A5, 2, 1, 0x6A⟩, ⟨0x1D4A9, 4, 1, 0x6E⟩, ⟨0x1D4AE, 8, 1, 0x73⟩,
  ⟨0x1D4B6, 4, 1, 0x61⟩, ⟨0x1D4BB, 1, 1, 0x66⟩, ⟨0x1D4BD, 7, 1, 0x68⟩, ⟨0x1D4C5, 11, 1, 0x70⟩,
  ⟨0x1D4D0, 26, 1, 0x61⟩, ⟨0x1D4EA, 26, 1, 0x61⟩, ⟨0x1D504, 2, 1, 0x61⟩, ⟨0x1D507, 4, 1, 0x64⟩,
  ⟨0x1D50D, 8, 1, 0x6A⟩, ⟨0x1D516, 7, 1, 0x73⟩, ⟨0x1D51E, 26, 1, 0x61⟩, ⟨0x1D538, 2, 1, 0x61⟩,
  ⟨0x1D53B, 4, 1, 0x64⟩, ⟨0x1D540, 5, 1, 0x69⟩, ⟨0x1D546, 1, 1, 0x6F⟩, ⟨0x1D54A, 7, 1, 0x73⟩,
  ⟨0x1D552, 26, 1, 0x61⟩, ⟨0x1D56C, 26, 1, 0x61⟩, ⟨0x1D586, 26, 1, 0x61⟩, ⟨0x1D5A0, 26, 1, 0x61⟩,
  ⟨0x1D5BA, 26, 1, 0x61⟩, ⟨0x1D5D4, 26, 1, 0x61⟩, ⟨0x1D5EE, 26, 1, 0x61⟩, ⟨0x1D608, 26, 1, 0x61⟩,
  ⟨0x1D622, 26, 1, 0x61⟩, ⟨0x1D63C, 26, 1, 0x61⟩, ⟨0x1D656, 26, 1, 0x61⟩, ⟨0x1D670, 26, 1, 0x61⟩,
  ⟨0x1D68A, 26, 1, 0x61⟩, ⟨0x1D6A4, 1, 1, 0x131⟩, ⟨0x1D6A5, 1, 1, 0x237⟩, ⟨0x1D6A8, 17, 1, 0x3B1⟩,
  ⟨0x1D6B9, 1, 1, 0x3B8⟩, ⟨0x1D6BA, 7, 1, 0x3C3⟩, ⟨0x1D6C1, 1, 1, 0x2207⟩, ⟨0x1D6C2, 17, 1, 0x3B1⟩,
  ⟨0x1D6D3, 2, 0, 0x3C3⟩, ⟨0x1D6D5, 6, 1, 0x3C4⟩, ⟨0x1D6DB, 1, 1, 0x2202⟩, ⟨0x1D6DC, 1, 1, 0x3B5⟩,
  ⟨0x1D6DD, 1, 1, 0x3B8⟩, ⟨0x1D6DE, 1, 1, 0x3BA⟩, ⟨0x1D6DF, 1, 1, 0x3C6⟩, ⟨0x1D6E0, 1, 1, 0x3C1⟩,
  ⟨0x1D6E1, 1, 1, 0x3C0⟩, ⟨0x1D6E2, 17, 1, 0x3B1⟩, ⟨0x1D6F3, 1, 1, 0x3B8⟩, ⟨0x1D6F4, 7, 1, 0x3C3⟩,
  ⟨0x1D6FB, 1, 1, 0x2207⟩, ⟨0x1D6FC, 17, 1, 0x3B1⟩, ⟨0x1D70D, 2, 0, 0x3C3⟩, ⟨0x1D70F, 6, 1, 0x3C4⟩,
  ⟨0x1D715, 1, 1, 0x2202⟩, ⟨0x1D716, 1, 1, 0x3B5⟩, ⟨0x1D717, 1, 1, 0x3B8⟩, ⟨0x1D718, 1, 1, 0x3BA⟩,
  ⟨0x1D719, 1, 1, 0x3C6⟩, ⟨0x1D71A, 1, 1, 0x3C1⟩, ⟨0x1D71B, 1, 1, 0x3C0⟩, ⟨0x1D71C, 17, 1, 0x3B1⟩,
  ⟨0x1D72D, 1, 1, 0x3B8⟩, ⟨0x1D72E, 7, 1, 0x3C3⟩, ⟨0x1D735, 1, 1, 0x2207⟩, ⟨0x1D736, 17, 1, 0x3B1⟩,
  ⟨0x1D747, 2, 0, 0x3C3⟩, ⟨0x1D749, 6, 1, 0x3C4⟩, ⟨0x1D74F, 1, 1, 0x2202⟩, ⟨0x1D750, 1, 1, 0x3B5⟩,
  ⟨0x1D751, 1, 1, 0x3B8⟩, ⟨0x1D752, 1, 1, 0x3BA⟩, ⟨0x1D753, 1, 1, 0x3C6⟩, ⟨0x1D754, 1, 1, 0x3C1⟩,
  ⟨0x1D755, 1, 1, 0x3C0⟩, ⟨0x1D756, 17, 1, 0x3B1⟩, ⟨0x1D767, 1, 1, 0x3B8⟩, ⟨0x1D768, 7, 1, 0x3C3⟩,
  ⟨0x1D76F, 1, 1, 0x2207⟩, ⟨0x1D770, 17, 1, 0x3B1⟩, ⟨0x1D781, 2, 0, 0x3C3⟩, ⟨0x1D783, 6, 1, 0x3C4⟩,
  ⟨0x1D789, 1, 1, 0x2202⟩, ⟨0x1D78A, 1, 1, 0x3B5⟩, ⟨0x1D78B, 1, 1, 0x3B8⟩, ⟨0x1D78C, 1, 1, 0x3BA⟩,
  ⟨0x1D78D, 1, 1, 0x3C6⟩, ⟨0x1D78E, 1, 1, 0x3C1⟩, ⟨0x1D78F, 1, 1, 0x3C0⟩, ⟨0x1D790, 17, 1, 0x3B1⟩,
  ⟨0x1D7A1, 1, 1, 0x3B8⟩, ⟨0x1D7A2, 7, 1, 0x3C3⟩, ⟨0x1D7A9, 1, 1, 0x2207⟩, ⟨0x1D7AA, 17, 1, 0x3B1⟩,
  ⟨0x1D7BB, 2, 0, 0x3C3⟩, ⟨0x1D7BD, 6, 1, 0x3C4⟩, ⟨0x1D7C3, 1, 1, 0x2202⟩, ⟨0x1D7C4, 1, 1, 0x3B5⟩,
  ⟨0x1D7C5, 1, 1, 0x3B8⟩, ⟨0x1D7C6, 1, 1, 0x3BA⟩, ⟨0x1D7C7, 1, 1, 0x3C6⟩, ⟨0x1D7C8, 1, 1, 0x3C1⟩,
  ⟨0x1D7C9, 1, 1, 0x3C0⟩, ⟨0x1D7CA, 2, 0, 0x3DD⟩, ⟨0x1D7CE, 10, 1, 0x30⟩, ⟨0x1D7D8, 10, 1, 0x30⟩,
  ⟨0x1D7E2, 10, 1, 0x30⟩, ⟨0x1D7EC, 10, 1, 0x30⟩, ⟨0x1D7F6, 10, 1, 0x30⟩, ⟨0x1E030, 9, 1, 0x430⟩,
  ⟨0x1E039, 3, 1, 0x43A⟩, ⟨0x1E03C, 11, 1, 0x43E⟩, ⟨0x1E047, 1, 1, 0x44B⟩, ⟨0x1E048, 2, 1, 0x44D⟩,
  ⟨0x1E04A, 1, 1, 0xA689⟩, ⟨0x1E04B, 1, 1, 0x4D9⟩, ⟨0x1E04C, 1, 1, 0x456⟩, ⟨0x1E04D, 1, 1, 0x458⟩,
  ⟨0x1E04E, 1, 1, 0x4E9⟩, ⟨0x1E04F, 1, 1, 0x4AF⟩, ⟨0x1E050, 1, 1, 0x4CF⟩, ⟨0x1E051, 9, 1, 0x430⟩,
  ⟨0x1E05A, 2, 1, 0x43A⟩, ⟨0x1E05C, 2, 1, 0x43E⟩, ⟨0x1E05E, 1, 1, 0x441⟩, ⟨0x1E05F, 6, 1, 0x443⟩,
  ⟨0x1E065, 2, 1, 0x44A⟩, ⟨0x1E067, 1, 1, 0x491⟩, ⟨0x1E068, 1, 1, 0x456⟩, ⟨0x1E069, 1, 1, 0x455⟩,
  ⟨0x1E06A, 1, 1, 0x45F⟩, ⟨0x1E06B, 1, 1, 0x4AB⟩, ⟨0x1E06C, 1, 1, 0xA651⟩, ⟨0x1E06D, 1, 1, 0x4B1⟩,
  ⟨0x1EE00, 2, 1, 0x627⟩, ⟨0x1EE02, 1, 1, 0x62C⟩, ⟨0x1EE03, 1, 1, 0x62F⟩, ⟨0x1EE05, 1, 1, 0x648⟩,
  ⟨0x1EE06, 1, 1, 0x632⟩, ⟨0x1EE07, 1, 1, 0x62D⟩, ⟨0x1EE08, 1, 1, 0x637⟩, ⟨0x1EE09, 1, 1, 0x64A⟩,
  ⟨0x1EE0A, 4, 1, 0x643⟩, ⟨0x1EE0E, 1, 1, 0x633⟩, ⟨0x1EE0F, 1, 1, 0x639⟩, ⟨0x1EE10, 1, 1, 0x641⟩,
  ⟨0x1EE11, 1, 1, 0x635⟩, ⟨0x1EE12, 1, 1, 0x642⟩, ⟨0x1EE13, 1, 1, 0x631⟩, ⟨0x1EE14, 1, 1, 0x634⟩,
  ⟨0x1EE15, 2, 1, 0x62A⟩, ⟨0x1EE17, 1, 1, 0x62E⟩, ⟨0x1EE18, 1, 1, 0x630⟩, ⟨0x1EE19, 1, 1, 0x636⟩,
  ⟨0x1EE1A, 1, 1, 0x638⟩, ⟨0x1EE1B, 1, 1, 0x63A⟩, ⟨0x1EE1C, 1, 1, 0x66E⟩, ⟨0x1EE1D, 1, 1, 0x6BA⟩,
  ⟨0x1EE1E, 1, 1, 0x6A1⟩, ⟨0x1EE1F, 1, 1, 0x66F⟩, ⟨0x1EE21, 1, 1, 0x628⟩, ⟨0x1EE22, 1, 1, 0x62C⟩,
  ⟨0x1EE24, 1, 1, 0x647⟩, ⟨0x1EE27, 1, 1, 0x62D⟩, ⟨0x1EE29, 1, 1, 0x64A⟩, ⟨0x1EE2A, 4, 1, 0x643⟩,
  ⟨0x1EE2E, 1, 1, 0x633⟩, ⟨0x1EE2F, 1, 1, 0x639⟩, ⟨0x1EE30, 1, 1, 0x641⟩, ⟨0x1EE31, 1, 1, 0x635⟩,
  ⟨0x1EE32, 1, 1, 0x642⟩, ⟨0x1EE34, 1, 1, 0x634⟩, ⟨0x1EE35, 2, 1, 0x62A⟩, ⟨0x1EE37, 1, 1, 0x62E⟩,
  ⟨0x1EE39, 1, 1, 0x636⟩, ⟨0x1EE3B, 1, 1, 0x63A⟩, ⟨0x1EE42, 1, 1, 0x62C⟩, ⟨0x1EE47, 1, 1, 0x62D⟩,
  ⟨0x1EE49, 1, 1, 0x64A⟩, ⟨0x1EE4B, 1, 1, 0x644⟩, ⟨0x1EE4D, 1, 1, 0x646⟩, ⟨0x1EE4E, 1, 1, 0x633⟩,
  ⟨0x1EE4F, 1, 1, 0x639⟩, ⟨0x1EE51, 1, 1, 0x635⟩, ⟨0x1EE52, 1, 1, 0x642⟩, ⟨0x1EE54, 1, 1, 0x634⟩,
  ⟨0x1EE57, 1, 1, 0x62E⟩, ⟨0x1EE59, 1, 1, 0x636⟩, ⟨0x1EE5B, 1, 1, 0x63A⟩, ⟨0x1EE5D, 1, 1, 0x6BA⟩,
  ⟨0x1EE5F, 1, 1, 0x66F⟩, ⟨0x1EE61, 1, 1, 0x628⟩, ⟨0x1EE62, 1, 1, 0x62C⟩, ⟨0x1EE64, 1, 1, 0x647⟩,
  ⟨0x1EE67, 1, 1, 0x62D⟩, ⟨0x1EE68, 1, 1, 0x637⟩, ⟨0x1EE69, 1, 1, 0x64A⟩, ⟨0x1EE6A, 1, 1, 0x643⟩,
  ⟨0x1EE6C, 2, 1, 0x645⟩, ⟨0x1EE6E, 1, 1, 0x633⟩, ⟨0x1EE6F, 1, 1, 0x639⟩, ⟨0x1EE70, 1, 1, 0x641⟩,
  ⟨0x1EE71, 1, 1, 0x635⟩, ⟨0x1EE72, 1, 1, 0x642⟩, ⟨0x1EE74, 1, 1, 0x634⟩, ⟨0x1EE75, 2, 1, 0x62A⟩,
  ⟨0x1EE77, 1, 1, 0x62E⟩, ⟨0x1EE79, 1, 1, 0x636⟩, ⟨0x1EE7A, 1, 1, 0x638⟩, ⟨0x1EE7B, 1, 1, 0x63A⟩,
  ⟨0x1EE7C, 1, 1, 0x66E⟩, ⟨0x1EE7E, 1, 1, 0x6A1⟩, ⟨0x1EE80, 2, 1, 0x627⟩, ⟨0x1EE82, 1, 1, 0x62C⟩,
  ⟨0x1EE83, 1, 1, 0x62F⟩, ⟨0x1EE84, 2, 1, 0x647⟩, ⟨0x1EE86, 1, 1, 0x632⟩, ⟨0x1EE87, 1, 1, 0x62D⟩,
  ⟨0x1EE88, 1, 1, 0x637⟩, ⟨0x1EE89, 1, 1, 0x64A⟩, ⟨0x1EE8B, 3, 1, 0x644⟩, ⟨0x1EE8E, 1, 1, 0x633⟩,
  ⟨0x1EE8F, 1, 1, 0x639⟩, ⟨0x1EE90, 1, 1, 0x641⟩, ⟨0x1EE91, 1, 1, 0x635⟩, ⟨0x1EE92, 1, 1, 0x642⟩,
  ⟨0x1EE93, 1, 1, 0x631⟩, ⟨0x1EE94, 1, 1, 0x634⟩, ⟨0x1EE95, 2, 1, 0x62A⟩, ⟨0x1EE97, 1, 1, 0x62E⟩,
  ⟨0x1EE98, 1, 1, 0x630⟩, ⟨0x1EE99, 1, 1, 0x636⟩, ⟨0x1EE9A, 1, 1, 0x638⟩, ⟨0x1EE9B, 1, 1, 0x63A⟩,
  ⟨0x1EEA1, 1, 1, 0x628⟩, ⟨0x1EEA2, 1, 1, 0x62C⟩, ⟨0x1EEA3, 1, 1, 0x62F⟩, ⟨0x1EEA5, 1, 1, 0x648⟩,
  ⟨0x1EEA6, 1, 1, 0x632⟩, ⟨0x1EEA7, 1, 1, 0x62D⟩, ⟨0x1EEA8, 1, 1, 0x637⟩, ⟨0x1EEA9, 1, 1, 0x64A⟩,
  ⟨0x1EEAB, 3, 1, 0x644⟩, ⟨0x1EEAE, 1, 1, 0x633⟩, ⟨0x1EEAF, 1, 1, 0x639⟩, ⟨0x1EEB0, 1, 1, 0x641⟩,
  ⟨0x1EEB1, 1, 1, 0x635⟩, ⟨0x1EEB2, 1, 1, 0x642⟩, ⟨0x1EEB3, 1, 1, 0x631⟩, ⟨0x1EEB4, 1, 1, 0x634⟩,
  ⟨0x1EEB5, 2, 1, 0x62A⟩, ⟨0x1EEB7, 1, 1, 0x62E⟩, ⟨0x1EEB8, 1, 1, 0x630⟩, ⟨0x1EEB9, 1, 1, 0x636⟩,
  ⟨0x1EEBA, 1, 1, 0x638⟩, ⟨0x1EEBB, 1, 1, 0x63A⟩, ⟨0x1F12B, 1, 1, 0x63⟩, ⟨0x1F12C, 1, 1, 0x72⟩,
  ⟨0x1F130, 26, 1, 0x61⟩, ⟨0x1F202, 1, 1, 0x30B5⟩, ⟨0x1F210, 1, 1, 0x624B⟩, ⟨0x1F211, 1, 1, 0x5B57⟩,
  ⟨0x1F212, 1, 1, 0x53CC⟩, ⟨0x1F213, 1, 1, 0x30C7⟩, ⟨0x1F214, 1, 1, 0x4E8C⟩,
  ⟨0x1F215, 1, 1, 0x591A⟩, ⟨0x1F216, 1, 1, 0x89E3⟩, ⟨0x1F217, 1, 1, 0x5929⟩,
  ⟨0x1F218, 1, 1, 0x4EA4⟩, ⟨0x1F219, 1, 1, 0x6620⟩, ⟨0x1F21A, 1, 1, 0x7121⟩,
  ⟨0x1F21B, 1, 1, 0x6599⟩, ⟨0x1F21C, 1, 1, 0x524D⟩, ⟨0x1F21D, 1, 1, 0x5F8C⟩,
  ⟨0x1F21E, 1, 1, 0x518D⟩, ⟨0x1F21F, 1, 1, 0x65B0⟩, ⟨0x1F220, 1, 1, 0x521D⟩,
  ⟨0x1F221, 1, 1, 0x7D42⟩, ⟨0x1F222, 1, 1, 0x751F⟩, ⟨0x1F223, 1, 1, 0x8CA9⟩,
  ⟨0x1F224, 1, 1, 0x58F0⟩, ⟨0x1F225, 1, 1, 0x5439⟩, ⟨0x1F226, 1, 1, 0x6F14⟩,
  ⟨0x1F227, 1, 1, 0x6295⟩, ⟨0x1F228, 1, 1, 0x6355⟩, ⟨0x1F229, 1, 1, 0x4E00⟩,
  ⟨0x1F22A, 1, 1, 0x4E09⟩, ⟨0x1F22B, 1, 1, 0x904A⟩, ⟨0x1F22C, 1, 1, 0x5DE6⟩,
  ⟨0x1F22D, 1, 1, 0x4E2D⟩, ⟨0x1F22E, 1, 1, 0x53F3⟩, ⟨0x1F22F, 1, 1, 0x6307⟩,
  ⟨0x1F230, 1, 1, 0x8D70⟩, ⟨0x1F231, 1, 1, 0x6253⟩, ⟨0x1F232, 1, 1, 0x7981⟩,
  ⟨0x1F233, 1, 1, 0x7A7A⟩, ⟨0x1F234, 1, 1, 0x5408⟩, ⟨0x1F235, 1, 1, 0x6E80⟩,
  ⟨0x1F236, 1, 1, 0x6709⟩, ⟨0x1F237, 1, 1, 0x6708⟩, ⟨0x1F238, 1, 1, 0x7533⟩,
  ⟨0x1F239, 1, 1, 0x5272⟩, ⟨0x1F23A, 1, 1, 0x55B6⟩, ⟨0x1F23B, 1, 1, 0x914D⟩,
  ⟨0x1F250, 1, 1, 0x5F97⟩, ⟨0x1F251, 1, 1, 0x53EF⟩, ⟨0x1FBF0, 10, 1, 0x30⟩]

/-- The simpler form of a code point, looked up in ascending runs. -/
def findSimple : List SimpleRun → Nat → Option Nat
  | [], _ => none
  | run :: rest, c =>
    if c < run.first then none
    else if c < run.first + run.count then some (run.target + run.stride * (c - run.first))
    else findSimple rest c

end Concordance.Domain
