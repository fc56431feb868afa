import BattleScript.Text.Lower

/-!
Names of hosts. A name is a list of labels with dots between them, and a label with letters outside
ASCII is sent in a form that has none: its ASCII characters, and behind a hyphen the places and values
of the others as numbers with digits of base 36.
-/
namespace BattleScript.Download.Hostname
open Text

def labelRuns : List (Nat × Nat × Nat) := [
  (0x002D, 0x002D, 1), (0x0030, 0x0039, 1), (0x0061, 0x007A, 1), (0x00DF, 0x00F6, 1),
  (0x00F8, 0x00FF, 1), (0x0101, 0x0131, 2), (0x0135, 0x0135, 1), (0x0137, 0x0138, 1),
  (0x013A, 0x013E, 2), (0x0142, 0x0148, 2), (0x014B, 0x0177, 2), (0x017A, 0x0180, 2),
  (0x0183, 0x0185, 2), (0x0188, 0x0188, 1), (0x018C, 0x018D, 1), (0x0192, 0x0192, 1),
  (0x0195, 0x0195, 1), (0x0199, 0x019B, 1), (0x019E, 0x019E, 1), (0x01A1, 0x01A5, 2),
  (0x01A8, 0x01A8, 1), (0x01AA, 0x01AB, 1), (0x01AD, 0x01AD, 1), (0x01B0, 0x01B0, 1),
  (0x01B4, 0x01B6, 2), (0x01B9, 0x01BB, 1), (0x01BD, 0x01C3, 1), (0x01CE, 0x01DA, 2),
  (0x01DC, 0x01DD, 1), (0x01DF, 0x01ED, 2), (0x01EF, 0x01F0, 1), (0x01F5, 0x01F5, 1),
  (0x01F9, 0x0231, 2), (0x0233, 0x0239, 1), (0x023C, 0x023C, 1), (0x023F, 0x0240, 1),
  (0x0242, 0x0242, 1), (0x0247, 0x024D, 2), (0x024F, 0x02AF, 1), (0x02B9, 0x02C1, 1),
  (0x02C6, 0x02D1, 1), (0x02EC, 0x02EE, 2), (0x0300, 0x033F, 1), (0x0342, 0x0342, 1),
  (0x0346, 0x034E, 1), (0x0350, 0x036F, 1), (0x0371, 0x0373, 2), (0x0377, 0x0377, 1),
  (0x037B, 0x037D, 1), (0x0390, 0x0390, 1), (0x03AC, 0x03CE, 1), (0x03D7, 0x03EF, 2),
  (0x03F3, 0x03F3, 1), (0x03F8, 0x03F8, 1), (0x03FB, 0x03FC, 1), (0x0430, 0x045F, 1),
  (0x0461, 0x0481, 2), (0x0483, 0x0487, 1), (0x048B, 0x04BF, 2), (0x04C2, 0x04CC, 2),
  (0x04CE, 0x04CF, 1), (0x04D1, 0x052F, 2), (0x0559, 0x0559, 1), (0x0560, 0x0586, 1),
  (0x0588, 0x0588, 1), (0x0591, 0x05BD, 1), (0x05BF, 0x05BF, 1), (0x05C1, 0x05C2, 1),
  (0x05C4, 0x05C5, 1), (0x05C7, 0x05C7, 1), (0x05D0, 0x05EA, 1), (0x05EF, 0x05F2, 1),
  (0x0610, 0x061A, 1), (0x0620, 0x063F, 1), (0x0641, 0x065F, 1), (0x066E, 0x0674, 1),
  (0x0679, 0x06D3, 1), (0x06D5, 0x06DC, 1), (0x06DF, 0x06E8, 1), (0x06EA, 0x06EF, 1),
  (0x06FA, 0x06FF, 1), (0x0710, 0x074A, 1), (0x074D, 0x07B1, 1), (0x07C0, 0x07F5, 1),
  (0x07FD, 0x07FD, 1), (0x0800, 0x082D, 1), (0x0840, 0x085B, 1), (0x0860, 0x086A, 1),
  (0x0870, 0x0887, 1), (0x0889, 0x088E, 1), (0x0898, 0x08E1, 1), (0x08E3, 0x0957, 1),
  (0x0960, 0x0963, 1), (0x0966, 0x096F, 1), (0x0971, 0x0983, 1), (0x0985, 0x098C, 1),
  (0x098F, 0x0990, 1), (0x0993, 0x09A8, 1), (0x09AA, 0x09B0, 1), (0x09B2, 0x09B2, 1),
  (0x09B6, 0x09B9, 1), (0x09BC, 0x09C4, 1), (0x09C7, 0x09C8, 1), (0x09CB, 0x09CE, 1),
  (0x09D7, 0x09D7, 1), (0x09E0, 0x09E3, 1), (0x09E6, 0x09F1, 1), (0x09FC, 0x09FE, 2),
  (0x0A01, 0x0A03, 1), (0x0A05, 0x0A0A, 1), (0x0A0F, 0x0A10, 1), (0x0A13, 0x0A28, 1),
  (0x0A2A, 0x0A30, 1), (0x0A32, 0x0A32, 1), (0x0A35, 0x0A35, 1), (0x0A38, 0x0A39, 1),
  (0x0A3C, 0x0A3C, 1), (0x0A3E, 0x0A42, 1), (0x0A47, 0x0A48, 1), (0x0A4B, 0x0A4D, 1),
  (0x0A51, 0x0A51, 1), (0x0A5C, 0x0A5C, 1), (0x0A66, 0x0A75, 1), (0x0A81, 0x0A83, 1),
  (0x0A85, 0x0A8D, 1), (0x0A8F, 0x0A91, 1), (0x0A93, 0x0AA8, 1), (0x0AAA, 0x0AB0, 1),
  (0x0AB2, 0x0AB3, 1), (0x0AB5, 0x0AB9, 1), (0x0ABC, 0x0AC5, 1), (0x0AC7, 0x0AC9, 1),
  (0x0ACB, 0x0ACD, 1), (0x0AD0, 0x0AD0, 1), (0x0AE0, 0x0AE3, 1), (0x0AE6, 0x0AEF, 1),
  (0x0AF9, 0x0AFF, 1), (0x0B01, 0x0B03, 1), (0x0B05, 0x0B0C, 1), (0x0B0F, 0x0B10, 1),
  (0x0B13, 0x0B28, 1), (0x0B2A, 0x0B30, 1), (0x0B32, 0x0B33, 1), (0x0B35, 0x0B39, 1),
  (0x0B3C, 0x0B44, 1), (0x0B47, 0x0B48, 1), (0x0B4B, 0x0B4D, 1), (0x0B55, 0x0B57, 1),
  (0x0B5F, 0x0B63, 1), (0x0B66, 0x0B6F, 1), (0x0B71, 0x0B71, 1), (0x0B82, 0x0B83, 1),
  (0x0B85, 0x0B8A, 1), (0x0B8E, 0x0B90, 1), (0x0B92, 0x0B95, 1), (0x0B99, 0x0B9A, 1),
  (0x0B9C, 0x0B9C, 1), (0x0B9E, 0x0B9F, 1), (0x0BA3, 0x0BA4, 1), (0x0BA8, 0x0BAA, 1),
  (0x0BAE, 0x0BB9, 1), (0x0BBE, 0x0BC2, 1), (0x0BC6, 0x0BC8, 1), (0x0BCA, 0x0BCD, 1),
  (0x0BD0, 0x0BD0, 1), (0x0BD7, 0x0BD7, 1), (0x0BE6, 0x0BEF, 1), (0x0C00, 0x0C0C, 1),
  (0x0C0E, 0x0C10, 1), (0x0C12, 0x0C28, 1), (0x0C2A, 0x0C39, 1), (0x0C3C, 0x0C44, 1),
  (0x0C46, 0x0C48, 1), (0x0C4A, 0x0C4D, 1), (0x0C55, 0x0C56, 1), (0x0C58, 0x0C5A, 1),
  (0x0C5D, 0x0C5D, 1), (0x0C60, 0x0C63, 1), (0x0C66, 0x0C6F, 1), (0x0C80, 0x0C83, 1),
  (0x0C85, 0x0C8C, 1), (0x0C8E, 0x0C90, 1), (0x0C92, 0x0CA8, 1), (0x0CAA, 0x0CB3, 1),
  (0x0CB5, 0x0CB9, 1), (0x0CBC, 0x0CC4, 1), (0x0CC6, 0x0CC8, 1), (0x0CCA, 0x0CCD, 1),
  (0x0CD5, 0x0CD6, 1), (0x0CDD, 0x0CDE, 1), (0x0CE0, 0x0CE3, 1), (0x0CE6, 0x0CEF, 1),
  (0x0CF1, 0x0CF3, 1), (0x0D00, 0x0D0C, 1), (0x0D0E, 0x0D10, 1), (0x0D12, 0x0D44, 1),
  (0x0D46, 0x0D48, 1), (0x0D4A, 0x0D4E, 1), (0x0D54, 0x0D57, 1), (0x0D5F, 0x0D63, 1),
  (0x0D66, 0x0D6F, 1), (0x0D7A, 0x0D7F, 1), (0x0D81, 0x0D83, 1), (0x0D85, 0x0D96, 1),
  (0x0D9A, 0x0DB1, 1), (0x0DB3, 0x0DBB, 1), (0x0DBD, 0x0DBD, 1), (0x0DC0, 0x0DC6, 1),
  (0x0DCA, 0x0DCA, 1), (0x0DCF, 0x0DD4, 1), (0x0DD6, 0x0DD6, 1), (0x0DD8, 0x0DDF, 1),
  (0x0DE6, 0x0DEF, 1), (0x0DF2, 0x0DF3, 1), (0x0E01, 0x0E32, 1), (0x0E34, 0x0E3A, 1),
  (0x0E40, 0x0E4E, 1), (0x0E50, 0x0E59, 1), (0x0E81, 0x0E82, 1), (0x0E84, 0x0E84, 1),
  (0x0E86, 0x0E8A, 1), (0x0E8C, 0x0EA3, 1), (0x0EA5, 0x0EA5, 1), (0x0EA7, 0x0EB2, 1),
  (0x0EB4, 0x0EBD, 1), (0x0EC0, 0x0EC4, 1), (0x0EC6, 0x0EC6, 1), (0x0EC8, 0x0ECE, 1),
  (0x0ED0, 0x0ED9, 1), (0x0EDE, 0x0EDF, 1), (0x0F00, 0x0F00, 1), (0x0F0B, 0x0F0B, 1),
  (0x0F18, 0x0F19, 1), (0x0F20, 0x0F29, 1), (0x0F35, 0x0F39, 2), (0x0F3E, 0x0F42, 1),
  (0x0F44, 0x0F47, 1), (0x0F49, 0x0F4C, 1), (0x0F4E, 0x0F51, 1), (0x0F53, 0x0F56, 1),
  (0x0F58, 0x0F5B, 1), (0x0F5D, 0x0F68, 1), (0x0F6A, 0x0F6C, 1), (0x0F71, 0x0F72, 1),
  (0x0F74, 0x0F74, 1), (0x0F7A, 0x0F80, 1), (0x0F82, 0x0F84, 1), (0x0F86, 0x0F92, 1),
  (0x0F94, 0x0F97, 1), (0x0F99, 0x0F9C, 1), (0x0F9E, 0x0FA1, 1), (0x0FA3, 0x0FA6, 1),
  (0x0FA8, 0x0FAB, 1), (0x0FAD, 0x0FB8, 1), (0x0FBA, 0x0FBC, 1), (0x0FC6, 0x0FC6, 1),
  (0x1000, 0x1049, 1), (0x1050, 0x109D, 1), (0x10D0, 0x10FA, 1), (0x10FD, 0x10FF, 1),
  (0x1200, 0x1248, 1), (0x124A, 0x124D, 1), (0x1250, 0x1256, 1), (0x1258, 0x1258, 1),
  (0x125A, 0x125D, 1), (0x1260, 0x1288, 1), (0x128A, 0x128D, 1), (0x1290, 0x12B0, 1),
  (0x12B2, 0x12B5, 1), (0x12B8, 0x12BE, 1), (0x12C0, 0x12C0, 1), (0x12C2, 0x12C5, 1),
  (0x12C8, 0x12D6, 1), (0x12D8, 0x1310, 1), (0x1312, 0x1315, 1), (0x1318, 0x135A, 1),
  (0x135D, 0x135F, 1), (0x1380, 0x138F, 1), (0x13A0, 0x13F5, 1), (0x1401, 0x166C, 1),
  (0x166F, 0x167F, 1), (0x1681, 0x169A, 1), (0x16A0, 0x16EA, 1), (0x16F1, 0x16F8, 1),
  (0x1700, 0x1715, 1), (0x171F, 0x1734, 1), (0x1740, 0x1753, 1), (0x1760, 0x176C, 1),
  (0x176E, 0x1770, 1), (0x1772, 0x1773, 1), (0x1780, 0x17B3, 1), (0x17B6, 0x17D3, 1),
  (0x17D7, 0x17D7, 1), (0x17DC, 0x17DD, 1), (0x17E0, 0x17E9, 1), (0x1810, 0x1819, 1),
  (0x1820, 0x1878, 1), (0x1880, 0x18AA, 1), (0x18B0, 0x18F5, 1), (0x1900, 0x191E, 1),
  (0x1920, 0x192B, 1), (0x1930, 0x193B, 1), (0x1946, 0x196D, 1), (0x1970, 0x1974, 1),
  (0x1980, 0x19AB, 1), (0x19B0, 0x19C9, 1), (0x19D0, 0x19D9, 1), (0x1A00, 0x1A1B, 1),
  (0x1A20, 0x1A5E, 1), (0x1A60, 0x1A7C, 1), (0x1A7F, 0x1A89, 1), (0x1A90, 0x1A99, 1),
  (0x1AA7, 0x1AA7, 1), (0x1AB0, 0x1ABD, 1), (0x1ABF, 0x1ACE, 1), (0x1B00, 0x1B4C, 1),
  (0x1B50, 0x1B59, 1), (0x1B6B, 0x1B73, 1), (0x1B80, 0x1BF3, 1), (0x1C00, 0x1C37, 1),
  (0x1C40, 0x1C49, 1), (0x1C4D, 0x1C7D, 1), (0x1CD0, 0x1CD2, 1), (0x1CD4, 0x1CFA, 1),
  (0x1D00, 0x1D2B, 1), (0x1D2F, 0x1D2F, 1), (0x1D3B, 0x1D3B, 1), (0x1D4E, 0x1D4E, 1),
  (0x1D6B, 0x1D77, 1), (0x1D79, 0x1D9A, 1), (0x1DC0, 0x1DFF, 1), (0x1E01, 0x1E93, 2),
  (0x1E95, 0x1E99, 1), (0x1E9C, 0x1E9D, 1), (0x1E9F, 0x1EFD, 2), (0x1EFF, 0x1F07, 1),
  (0x1F10, 0x1F15, 1), (0x1F20, 0x1F27, 1), (0x1F30, 0x1F37, 1), (0x1F40, 0x1F45, 1),
  (0x1F50, 0x1F57, 1), (0x1F60, 0x1F67, 1), (0x1F70, 0x1F7C, 2), (0x1FB0, 0x1FB1, 1),
  (0x1FB6, 0x1FB6, 1), (0x1FC6, 0x1FC6, 1), (0x1FD0, 0x1FD2, 1), (0x1FD6, 0x1FD7, 1),
  (0x1FE0, 0x1FE2, 1), (0x1FE4, 0x1FE7, 1), (0x1FF6, 0x1FF6, 1), (0x214E, 0x214E, 1),
  (0x2184, 0x2184, 1), (0x2C30, 0x2C5F, 1), (0x2C61, 0x2C61, 1), (0x2C65, 0x2C66, 1),
  (0x2C68, 0x2C6C, 2), (0x2C71, 0x2C71, 1), (0x2C73, 0x2C74, 1), (0x2C76, 0x2C7B, 1),
  (0x2C81, 0x2CE1, 2), (0x2CE3, 0x2CE4, 1), (0x2CEC, 0x2CEC, 1), (0x2CEE, 0x2CF1, 1),
  (0x2CF3, 0x2CF3, 1), (0x2D00, 0x2D25, 1), (0x2D27, 0x2D27, 1), (0x2D2D, 0x2D2D, 1),
  (0x2D30, 0x2D67, 1), (0x2D7F, 0x2D96, 1), (0x2DA0, 0x2DA6, 1), (0x2DA8, 0x2DAE, 1),
  (0x2DB0, 0x2DB6, 1), (0x2DB8, 0x2DBE, 1), (0x2DC0, 0x2DC6, 1), (0x2DC8, 0x2DCE, 1),
  (0x2DD0, 0x2DD6, 1), (0x2DD8, 0x2DDE, 1), (0x2DE0, 0x2DFF, 1), (0x2E2F, 0x2E2F, 1),
  (0x3005, 0x3007, 1), (0x302A, 0x302D, 1), (0x303C, 0x303C, 1), (0x3041, 0x3096, 1),
  (0x3099, 0x309A, 1), (0x309D, 0x309E, 1), (0x30A1, 0x30FA, 1), (0x30FC, 0x30FE, 1),
  (0x3105, 0x312F, 1), (0x31A0, 0x31BF, 1), (0x31F0, 0x31FF, 1), (0x3400, 0x4DBF, 1),
  (0x4E00, 0xA48C, 1), (0xA4D0, 0xA4FD, 1), (0xA500, 0xA60C, 1), (0xA610, 0xA62B, 1),
  (0xA641, 0xA66B, 2), (0xA66D, 0xA66F, 1), (0xA674, 0xA67D, 1), (0xA67F, 0xA69B, 2),
  (0xA69E, 0xA6E5, 1), (0xA6F0, 0xA6F1, 1), (0xA717, 0xA71F, 1), (0xA723, 0xA72D, 2),
  (0xA72F, 0xA731, 1), (0xA733, 0xA76F, 2), (0xA771, 0xA778, 1), (0xA77A, 0xA77C, 2),
  (0xA77F, 0xA785, 2), (0xA787, 0xA788, 1), (0xA78C, 0xA78C, 1), (0xA78E, 0xA78F, 1),
  (0xA791, 0xA791, 1), (0xA793, 0xA795, 1), (0xA797, 0xA7A9, 2), (0xA7AF, 0xA7AF, 1),
  (0xA7B5, 0xA7C3, 2), (0xA7C8, 0xA7CA, 2), (0xA7D1, 0xA7D9, 2), (0xA7F6, 0xA7F7, 1),
  (0xA7FA, 0xA827, 1), (0xA82C, 0xA82C, 1), (0xA840, 0xA873, 1), (0xA880, 0xA8C5, 1),
  (0xA8D0, 0xA8D9, 1), (0xA8E0, 0xA8F7, 1), (0xA8FB, 0xA8FB, 1), (0xA8FD, 0xA92D, 1),
  (0xA930, 0xA953, 1), (0xA980, 0xA9C0, 1), (0xA9CF, 0xA9D9, 1), (0xA9E0, 0xA9FE, 1),
  (0xAA00, 0xAA36, 1), (0xAA40, 0xAA4D, 1), (0xAA50, 0xAA59, 1), (0xAA60, 0xAA76, 1),
  (0xAA7A, 0xAAC2, 1), (0xAADB, 0xAADD, 1), (0xAAE0, 0xAAEF, 1), (0xAAF2, 0xAAF6, 1),
  (0xAB01, 0xAB06, 1), (0xAB09, 0xAB0E, 1), (0xAB11, 0xAB16, 1), (0xAB20, 0xAB26, 1),
  (0xAB28, 0xAB2E, 1), (0xAB30, 0xAB5A, 1), (0xAB60, 0xAB68, 1), (0xABC0, 0xABEA, 1),
  (0xABEC, 0xABED, 1), (0xABF0, 0xABF9, 1), (0xAC00, 0xD7A3, 1), (0xFA0E, 0xFA0F, 1),
  (0xFA11, 0xFA11, 1), (0xFA13, 0xFA14, 1), (0xFA1F, 0xFA21, 2), (0xFA23, 0xFA24, 1),
  (0xFA27, 0xFA29, 1), (0xFB1E, 0xFB1E, 1), (0xFE20, 0xFE2F, 1), (0xFE73, 0xFE73, 1),
  (0x10000, 0x1000B, 1), (0x1000D, 0x10026, 1), (0x10028, 0x1003A, 1), (0x1003C, 0x1003D, 1),
  (0x1003F, 0x1004D, 1), (0x10050, 0x1005D, 1), (0x10080, 0x100FA, 1), (0x101FD, 0x101FD, 1),
  (0x10280, 0x1029C, 1), (0x102A0, 0x102D0, 1), (0x102E0, 0x102E0, 1), (0x10300, 0x1031F, 1),
  (0x1032D, 0x10340, 1), (0x10342, 0x10349, 1), (0x10350, 0x1037A, 1), (0x10380, 0x1039D, 1),
  (0x103A0, 0x103C3, 1), (0x103C8, 0x103CF, 1), (0x10428, 0x1049D, 1), (0x104A0, 0x104A9, 1),
  (0x104D8, 0x104FB, 1), (0x10500, 0x10527, 1), (0x10530, 0x10563, 1), (0x10597, 0x105A1, 1),
  (0x105A3, 0x105B1, 1), (0x105B3, 0x105B9, 1), (0x105BB, 0x105BC, 1), (0x10600, 0x10736, 1),
  (0x10740, 0x10755, 1), (0x10760, 0x10767, 1), (0x10780, 0x10780, 1), (0x10800, 0x10805, 1),
  (0x10808, 0x10808, 1), (0x1080A, 0x10835, 1), (0x10837, 0x10838, 1), (0x1083C, 0x1083C, 1),
  (0x1083F, 0x10855, 1), (0x10860, 0x10876, 1), (0x10880, 0x1089E, 1), (0x108E0, 0x108F2, 1),
  (0x108F4, 0x108F5, 1), (0x10900, 0x10915, 1), (0x10920, 0x10939, 1), (0x10980, 0x109B7, 1),
  (0x109BE, 0x109BF, 1), (0x10A00, 0x10A03, 1), (0x10A05, 0x10A06, 1), (0x10A0C, 0x10A13, 1),
  (0x10A15, 0x10A17, 1), (0x10A19, 0x10A35, 1), (0x10A38, 0x10A3A, 1), (0x10A3F, 0x10A3F, 1),
  (0x10A60, 0x10A7C, 1), (0x10A80, 0x10A9C, 1), (0x10AC0, 0x10AC7, 1), (0x10AC9, 0x10AE6, 1),
  (0x10B00, 0x10B35, 1), (0x10B40, 0x10B55, 1), (0x10B60, 0x10B72, 1), (0x10B80, 0x10B91, 1),
  (0x10C00, 0x10C48, 1), (0x10CC0, 0x10CF2, 1), (0x10D00, 0x10D27, 1), (0x10D30, 0x10D39, 1),
  (0x10E80, 0x10EA9, 1), (0x10EAB, 0x10EAC, 1), (0x10EB0, 0x10EB1, 1), (0x10EFD, 0x10F1C, 1),
  (0x10F27, 0x10F27, 1), (0x10F30, 0x10F50, 1), (0x10F70, 0x10F85, 1), (0x10FB0, 0x10FC4, 1),
  (0x10FE0, 0x10FF6, 1), (0x11000, 0x11046, 1), (0x11066, 0x11075, 1), (0x1107F, 0x110BA, 1),
  (0x110C2, 0x110C2, 1), (0x110D0, 0x110E8, 1), (0x110F0, 0x110F9, 1), (0x11100, 0x11134, 1),
  (0x11136, 0x1113F, 1), (0x11144, 0x11147, 1), (0x11150, 0x11173, 1), (0x11176, 0x11176, 1),
  (0x11180, 0x111C4, 1), (0x111C9, 0x111CC, 1), (0x111CE, 0x111DA, 1), (0x111DC, 0x111DC, 1),
  (0x11200, 0x11211, 1), (0x11213, 0x11237, 1), (0x1123E, 0x11241, 1), (0x11280, 0x11286, 1),
  (0x11288, 0x11288, 1), (0x1128A, 0x1128D, 1), (0x1128F, 0x1129D, 1), (0x1129F, 0x112A8, 1),
  (0x112B0, 0x112EA, 1), (0x112F0, 0x112F9, 1), (0x11300, 0x11303, 1), (0x11305, 0x1130C, 1),
  (0x1130F, 0x11310, 1), (0x11313, 0x11328, 1), (0x1132A, 0x11330, 1), (0x11332, 0x11333, 1),
  (0x11335, 0x11339, 1), (0x1133B, 0x11344, 1), (0x11347, 0x11348, 1), (0x1134B, 0x1134D, 1),
  (0x11350, 0x11350, 1), (0x11357, 0x11357, 1), (0x1135D, 0x11363, 1), (0x11366, 0x1136C, 1),
  (0x11370, 0x11374, 1), (0x11400, 0x1144A, 1), (0x11450, 0x11459, 1), (0x1145E, 0x11461, 1),
  (0x11480, 0x114C5, 1), (0x114C7, 0x114C7, 1), (0x114D0, 0x114D9, 1), (0x11580, 0x115B5, 1),
  (0x115B8, 0x115C0, 1), (0x115D8, 0x115DD, 1), (0x11600, 0x11640, 1), (0x11644, 0x11644, 1),
  (0x11650, 0x11659, 1), (0x11680, 0x116B8, 1), (0x116C0, 0x116C9, 1), (0x11700, 0x1171A, 1),
  (0x1171D, 0x1172B, 1), (0x11730, 0x11739, 1), (0x11740, 0x11746, 1), (0x11800, 0x1183A, 1),
  (0x118C0, 0x118E9, 1), (0x118FF, 0x11906, 1), (0x11909, 0x11909, 1), (0x1190C, 0x11913, 1),
  (0x11915, 0x11916, 1), (0x11918, 0x11935, 1), (0x11937, 0x11938, 1), (0x1193B, 0x11943, 1),
  (0x11950, 0x11959, 1), (0x119A0, 0x119A7, 1), (0x119AA, 0x119D7, 1), (0x119DA, 0x119E1, 1),
  (0x119E3, 0x119E4, 1), (0x11A00, 0x11A3E, 1), (0x11A47, 0x11A47, 1), (0x11A50, 0x11A99, 1),
  (0x11A9D, 0x11A9D, 1), (0x11AB0, 0x11AF8, 1), (0x11C00, 0x11C08, 1), (0x11C0A, 0x11C36, 1),
  (0x11C38, 0x11C40, 1), (0x11C50, 0x11C59, 1), (0x11C72, 0x11C8F, 1), (0x11C92, 0x11CA7, 1),
  (0x11CA9, 0x11CB6, 1), (0x11D00, 0x11D06, 1), (0x11D08, 0x11D09, 1), (0x11D0B, 0x11D36, 1),
  (0x11D3A, 0x11D3A, 1), (0x11D3C, 0x11D3D, 1), (0x11D3F, 0x11D47, 1), (0x11D50, 0x11D59, 1),
  (0x11D60, 0x11D65, 1), (0x11D67, 0x11D68, 1), (0x11D6A, 0x11D8E, 1), (0x11D90, 0x11D91, 1),
  (0x11D93, 0x11D98, 1), (0x11DA0, 0x11DA9, 1), (0x11EE0, 0x11EF6, 1), (0x11F00, 0x11F10, 1),
  (0x11F12, 0x11F3A, 1), (0x11F3E, 0x11F42, 1), (0x11F50, 0x11F59, 1), (0x11FB0, 0x11FB0, 1),
  (0x12000, 0x12399, 1), (0x12480, 0x12543, 1), (0x12F90, 0x12FF0, 1), (0x13000, 0x1342F, 1),
  (0x13440, 0x13455, 1), (0x14400, 0x14646, 1), (0x16800, 0x16A38, 1), (0x16A40, 0x16A5E, 1),
  (0x16A60, 0x16A69, 1), (0x16A70, 0x16ABE, 1), (0x16AC0, 0x16AC9, 1), (0x16AD0, 0x16AED, 1),
  (0x16AF0, 0x16AF4, 1), (0x16B00, 0x16B36, 1), (0x16B40, 0x16B43, 1), (0x16B50, 0x16B59, 1),
  (0x16B63, 0x16B77, 1), (0x16B7D, 0x16B8F, 1), (0x16E60, 0x16E7F, 1), (0x16F00, 0x16F4A, 1),
  (0x16F4F, 0x16F87, 1), (0x16F8F, 0x16F9F, 1), (0x16FE0, 0x16FE1, 1), (0x16FE3, 0x16FE4, 1),
  (0x16FF0, 0x16FF1, 1), (0x17000, 0x187F7, 1), (0x18800, 0x18CD5, 1), (0x18D00, 0x18D08, 1),
  (0x1AFF0, 0x1AFF3, 1), (0x1AFF5, 0x1AFFB, 1), (0x1AFFD, 0x1AFFE, 1), (0x1B000, 0x1B122, 1),
  (0x1B132, 0x1B132, 1), (0x1B150, 0x1B152, 1), (0x1B155, 0x1B155, 1), (0x1B164, 0x1B167, 1),
  (0x1B170, 0x1B2FB, 1), (0x1BC00, 0x1BC6A, 1), (0x1BC70, 0x1BC7C, 1), (0x1BC80, 0x1BC88, 1),
  (0x1BC90, 0x1BC99, 1), (0x1BC9D, 0x1BC9E, 1), (0x1CF00, 0x1CF2D, 1), (0x1CF30, 0x1CF46, 1),
  (0x1DA00, 0x1DA36, 1), (0x1DA3B, 0x1DA6C, 1), (0x1DA75, 0x1DA75, 1), (0x1DA84, 0x1DA84, 1),
  (0x1DA9B, 0x1DA9F, 1), (0x1DAA1, 0x1DAAF, 1), (0x1DF00, 0x1DF1E, 1), (0x1DF25, 0x1DF2A, 1),
  (0x1E000, 0x1E006, 1), (0x1E008, 0x1E018, 1), (0x1E01B, 0x1E021, 1), (0x1E023, 0x1E024, 1),
  (0x1E026, 0x1E02A, 1), (0x1E08F, 0x1E08F, 1), (0x1E100, 0x1E12C, 1), (0x1E130, 0x1E13D, 1),
  (0x1E140, 0x1E149, 1), (0x1E14E, 0x1E14E, 1), (0x1E290, 0x1E2AE, 1), (0x1E2C0, 0x1E2F9, 1),
  (0x1E4D0, 0x1E4F9, 1), (0x1E7E0, 0x1E7E6, 1), (0x1E7E8, 0x1E7EB, 1), (0x1E7ED, 0x1E7EE, 1),
  (0x1E7F0, 0x1E7FE, 1), (0x1E800, 0x1E8C4, 1), (0x1E8D0, 0x1E8D6, 1), (0x1E922, 0x1E94B, 1),
  (0x1E950, 0x1E959, 1), (0x20000, 0x2A6DF, 1), (0x2A700, 0x2B739, 1), (0x2B740, 0x2B81D, 1),
  (0x2B820, 0x2CEA1, 1), (0x2CEB0, 0x2EBE0, 1), (0x2EBF0, 0x2EE5D, 1), (0x30000, 0x3134A, 1),
  (0x31350, 0x323AF, 1)]

def isLabelChar (c : Char) : Bool :=
  labelRuns.any fun (a, b, s) => a ≤ c.toNat && c.toNat ≤ b && (c.toNat - a) % s == 0

def isAscii (c : Char) : Bool :=
  c.toNat < 128

def isDot (c : Char) : Bool :=
  c = '.' || c = '\u3002' || c = '\uFF0E' || c = '\uFF61'

def isLabel (l : Text) : Bool :=
  l ≠ [] && l.all isLabelChar && l.head? ≠ some '-' && l.getLast? ≠ some '-' &&
    (l.drop 2).take 2 ≠ ['-', '-']

def digit (n : Nat) : Char :=
  if n < 26 then Char.ofNat ('a'.toNat + n) else Char.ofNat ('0'.toNat + (n - 26))

def threshold (bias k : Nat) : Nat :=
  max 1 (min 26 (k - bias))

def number (bias k n : Nat) : Text :=
  let t := threshold bias k
  if n < t then [digit n]
  else digit (t + (n - t) % (36 - t)) :: number bias (k + 36) ((n - t) / (36 - t))
termination_by n
decreasing_by
  have positive : 1 ≤ threshold bias k := Nat.le_max_left 1 _
  have := Nat.div_le_self (n - threshold bias k) (36 - threshold bias k)
  omega

def shrink (distance k : Nat) : Nat × Nat :=
  if 455 < distance then shrink (distance / 35) (k + 36) else (distance, k)
termination_by distance

def adapt (distance count : Nat) (first : Bool) : Nat :=
  let start := if first then distance / 700 else distance / 2
  let (rest, k) := shrink (start + start / count) 0
  k + 36 * rest / (rest + 38)

/-- A label that is being written: the text so far, the distance to the next character, the bias, and
how many characters are in place. -/
structure Writing where
  out : Text
  distance : Nat
  bias : Nat
  count : Nat

def pass (ascii value : Nat) (w : Writing) (c : Char) : Writing :=
  if c.toNat < value then { w with distance := w.distance + 1 }
  else if c.toNat = value then
    { out := w.out ++ number w.bias 36 w.distance
      distance := 0
      bias := adapt w.distance (w.count + 1) (w.count = ascii)
      count := w.count + 1 }
  else w

def place (label : Text) (ascii : Nat) : Nat → Writing → List Nat → Writing
  | _, w, [] => w
  | next, w, value :: values =>
    let w := { w with distance := w.distance + (value - next) * (w.count + 1) }
    let w := label.foldl (pass ascii value) w
    place label ascii (value + 1) { w with distance := w.distance + 1 } values

def asciiMark : Text := "xn--"

def asciiLabel (l : Text) : Text :=
  let plain := l.filter isAscii
  let values := ((l.filter fun c => !isAscii c).map Char.toNat).mergeSort.eraseDups
  if values = [] then l
  else
    asciiMark ++ plain ++ (if plain = [] then [] else ['-']) ++
      (place l plain.length 128 ⟨[], 0, 72, plain.length⟩ values).out

def labels (name : Text) : List Text :=
  splitOn '.' ((lower name).map fun c => if isDot c then '.' else c)

/-- A name as it is sent, if its labels can be sent at all. -/
def ascii? (name : Text) : Option Text :=
  let sent := (labels name).map asciiLabel
  if (labels name).all isLabel ∧ sent.all (·.length ≤ 63) then some (join ['.'] sent) else none

def shown? (name : Text) : Option Text :=
  (ascii? name).map fun sent =>
    if startsWith sent asciiMark then join ['.'] (labels name) else sent

end BattleScript.Download.Hostname
