/-!
# Compatibility decompositions: ideographs

Full compatibility decompositions (Unicode 14) of compatibility ideographs and presentation forms up to U+FFFF, in
pages of ascending code points.
-/

namespace SciCalc.Text.Compatibility

def pageA69C : List (Nat × List Nat) := [
  (0xA69C, [0x044A]), (0xA69D, [0x044C]), (0xA770, [0xA76F]), (0xA7F2, [0x0043]),
  (0xA7F3, [0x0046]), (0xA7F4, [0x0051]), (0xA7F8, [0x0126]), (0xA7F9, [0x0153]),
  (0xAB5C, [0xA727]), (0xAB5D, [0xAB37]), (0xAB5E, [0x026B]), (0xAB5F, [0xAB52]),
  (0xAB69, [0x028D]), (0xF900, [0x8C48]), (0xF901, [0x66F4]), (0xF902, [0x8ECA]),
  (0xF903, [0x8CC8]), (0xF904, [0x6ED1]), (0xF905, [0x4E32]), (0xF906, [0x53E5]),
  (0xF907, [0x9F9C]), (0xF908, [0x9F9C]), (0xF909, [0x5951]), (0xF90A, [0x91D1]),
  (0xF90B, [0x5587]), (0xF90C, [0x5948]), (0xF90D, [0x61F6]), (0xF90E, [0x7669]),
  (0xF90F, [0x7F85]), (0xF910, [0x863F]), (0xF911, [0x87BA]), (0xF912, [0x88F8]),
  (0xF913, [0x908F]), (0xF914, [0x6A02]), (0xF915, [0x6D1B]), (0xF916, [0x70D9]),
  (0xF917, [0x73DE]), (0xF918, [0x843D]), (0xF919, [0x916A]), (0xF91A, [0x99F1]),
  (0xF91B, [0x4E82]), (0xF91C, [0x5375]), (0xF91D, [0x6B04]), (0xF91E, [0x721B]),
  (0xF91F, [0x862D]), (0xF920, [0x9E1E]), (0xF921, [0x5D50]), (0xF922, [0x6FEB]),
  (0xF923, [0x85CD]), (0xF924, [0x8964]), (0xF925, [0x62C9]), (0xF926, [0x81D8]),
  (0xF927, [0x881F]), (0xF928, [0x5ECA]), (0xF929, [0x6717]), (0xF92A, [0x6D6A]),
  (0xF92B, [0x72FC]), (0xF92C, [0x90CE]), (0xF92D, [0x4F86]), (0xF92E, [0x51B7]),
  (0xF92F, [0x52DE]), (0xF930, [0x64C4]), (0xF931, [0x6AD3]), (0xF932, [0x7210]),
  (0xF933, [0x76E7]), (0xF934, [0x8001]), (0xF935, [0x8606]), (0xF936, [0x865C]),
  (0xF937, [0x8DEF]), (0xF938, [0x9732]), (0xF939, [0x9B6F]), (0xF93A, [0x9DFA]),
  (0xF93B, [0x788C]), (0xF93C, [0x797F]), (0xF93D, [0x7DA0]), (0xF93E, [0x83C9]),
  (0xF93F, [0x9304]), (0xF940, [0x9E7F]), (0xF941, [0x8AD6]), (0xF942, [0x58DF]),
  (0xF943, [0x5F04]), (0xF944, [0x7C60]), (0xF945, [0x807E]), (0xF946, [0x7262]),
  (0xF947, [0x78CA]), (0xF948, [0x8CC2]), (0xF949, [0x96F7]), (0xF94A, [0x58D8]),
  (0xF94B, [0x5C62]), (0xF94C, [0x6A13]), (0xF94D, [0x6DDA]), (0xF94E, [0x6F0F]),
  (0xF94F, [0x7D2F]), (0xF950, [0x7E37]), (0xF951, [0x964B]), (0xF952, [0x52D2]),
  (0xF953, [0x808B]), (0xF954, [0x51DC]), (0xF955, [0x51CC]), (0xF956, [0x7A1C]),
  (0xF957, [0x7DBE]), (0xF958, [0x83F1]), (0xF959, [0x9675]), (0xF95A, [0x8B80]),
  (0xF95B, [0x62CF]), (0xF95C, [0x6A02]), (0xF95D, [0x8AFE]), (0xF95E, [0x4E39]),
  (0xF95F, [0x5BE7]), (0xF960, [0x6012]), (0xF961, [0x7387]), (0xF962, [0x7570]),
  (0xF963, [0x5317]), (0xF964, [0x78FB]), (0xF965, [0x4FBF]), (0xF966, [0x5FA9]),
  (0xF967, [0x4E0D]), (0xF968, [0x6CCC]), (0xF969, [0x6578]), (0xF96A, [0x7D22]),
  (0xF96B, [0x53C3]), (0xF96C, [0x585E]), (0xF96D, [0x7701]), (0xF96E, [0x8449]),
  (0xF96F, [0x8AAA]), (0xF970, [0x6BBA]), (0xF971, [0x8FB0]), (0xF972, [0x6C88]),
  (0xF973, [0x62FE]), (0xF974, [0x82E5]), (0xF975, [0x63A0]), (0xF976, [0x7565]),
  (0xF977, [0x4EAE]), (0xF978, [0x5169]), (0xF979, [0x51C9]), (0xF97A, [0x6881]),
  (0xF97B, [0x7CE7]), (0xF97C, [0x826F]), (0xF97D, [0x8AD2]), (0xF97E, [0x91CF]),
  (0xF97F, [0x52F5]), (0xF980, [0x5442]), (0xF981, [0x5973]), (0xF982, [0x5EEC]),
  (0xF983, [0x65C5]), (0xF984, [0x6FFE]), (0xF985, [0x792A]), (0xF986, [0x95AD]),
  (0xF987, [0x9A6A]), (0xF988, [0x9E97]), (0xF989, [0x9ECE]), (0xF98A, [0x529B]),
  (0xF98B, [0x66C6]), (0xF98C, [0x6B77]), (0xF98D, [0x8F62]), (0xF98E, [0x5E74]),
  (0xF98F, [0x6190]), (0xF990, [0x6200]), (0xF991, [0x649A]), (0xF992, [0x6F23]),
  (0xF993, [0x7149]), (0xF994, [0x7489]), (0xF995, [0x79CA]), (0xF996, [0x7DF4]),
  (0xF997, [0x806F]), (0xF998, [0x8F26]), (0xF999, [0x84EE]), (0xF99A, [0x9023]),
  (0xF99B, [0x934A]), (0xF99C, [0x5217]), (0xF99D, [0x52A3]), (0xF99E, [0x54BD]),
  (0xF99F, [0x70C8]), (0xF9A0, [0x88C2]), (0xF9A1, [0x8AAA]), (0xF9A2, [0x5EC9]),
  (0xF9A3, [0x5FF5]), (0xF9A4, [0x637B]), (0xF9A5, [0x6BAE]), (0xF9A6, [0x7C3E]),
  (0xF9A7, [0x7375]), (0xF9A8, [0x4EE4]), (0xF9A9, [0x56F9]), (0xF9AA, [0x5BE7]),
  (0xF9AB, [0x5DBA]), (0xF9AC, [0x601C]), (0xF9AD, [0x73B2]), (0xF9AE, [0x7469]),
  (0xF9AF, [0x7F9A]), (0xF9B0, [0x8046]), (0xF9B1, [0x9234]), (0xF9B2, [0x96F6]),
  (0xF9B3, [0x9748]), (0xF9B4, [0x9818]), (0xF9B5, [0x4F8B]), (0xF9B6, [0x79AE]),
  (0xF9B7, [0x91B4]), (0xF9B8, [0x96B8]), (0xF9B9, [0x60E1]), (0xF9BA, [0x4E86])]

def pageF9BB : List (Nat × List Nat) := [
  (0xF9BB, [0x50DA]), (0xF9BC, [0x5BEE]), (0xF9BD, [0x5C3F]), (0xF9BE, [0x6599]),
  (0xF9BF, [0x6A02]), (0xF9C0, [0x71CE]), (0xF9C1, [0x7642]), (0xF9C2, [0x84FC]),
  (0xF9C3, [0x907C]), (0xF9C4, [0x9F8D]), (0xF9C5, [0x6688]), (0xF9C6, [0x962E]),
  (0xF9C7, [0x5289]), (0xF9C8, [0x677B]), (0xF9C9, [0x67F3]), (0xF9CA, [0x6D41]),
  (0xF9CB, [0x6E9C]), (0xF9CC, [0x7409]), (0xF9CD, [0x7559]), (0xF9CE, [0x786B]),
  (0xF9CF, [0x7D10]), (0xF9D0, [0x985E]), (0xF9D1, [0x516D]), (0xF9D2, [0x622E]),
  (0xF9D3, [0x9678]), (0xF9D4, [0x502B]), (0xF9D5, [0x5D19]), (0xF9D6, [0x6DEA]),
  (0xF9D7, [0x8F2A]), (0xF9D8, [0x5F8B]), (0xF9D9, [0x6144]), (0xF9DA, [0x6817]),
  (0xF9DB, [0x7387]), (0xF9DC, [0x9686]), (0xF9DD, [0x5229]), (0xF9DE, [0x540F]),
  (0xF9DF, [0x5C65]), (0xF9E0, [0x6613]), (0xF9E1, [0x674E]), (0xF9E2, [0x68A8]),
  (0xF9E3, [0x6CE5]), (0xF9E4, [0x7406]), (0xF9E5, [0x75E2]), (0xF9E6, [0x7F79]),
  (0xF9E7, [0x88CF]), (0xF9E8, [0x88E1]), (0xF9E9, [0x91CC]), (0xF9EA, [0x96E2]),
  (0xF9EB, [0x533F]), (0xF9EC, [0x6EBA]), (0xF9ED, [0x541D]), (0xF9EE, [0x71D0]),
  (0xF9EF, [0x7498]), (0xF9F0, [0x85FA]), (0xF9F1, [0x96A3]), (0xF9F2, [0x9C57]),
  (0xF9F3, [0x9E9F]), (0xF9F4, [0x6797]), (0xF9F5, [0x6DCB]), (0xF9F6, [0x81E8]),
  (0xF9F7, [0x7ACB]), (0xF9F8, [0x7B20]), (0xF9F9, [0x7C92]), (0xF9FA, [0x72C0]),
  (0xF9FB, [0x7099]), (0xF9FC, [0x8B58]), (0xF9FD, [0x4EC0]), (0xF9FE, [0x8336]),
  (0xF9FF, [0x523A]), (0xFA00, [0x5207]), (0xFA01, [0x5EA6]), (0xFA02, [0x62D3]),
  (0xFA03, [0x7CD6]), (0xFA04, [0x5B85]), (0xFA05, [0x6D1E]), (0xFA06, [0x66B4]),
  (0xFA07, [0x8F3B]), (0xFA08, [0x884C]), (0xFA09, [0x964D]), (0xFA0A, [0x898B]),
  (0xFA0B, [0x5ED3]), (0xFA0C, [0x5140]), (0xFA0D, [0x55C0]), (0xFA10, [0x585A]),
  (0xFA12, [0x6674]), (0xFA15, [0x51DE]), (0xFA16, [0x732A]), (0xFA17, [0x76CA]),
  (0xFA18, [0x793C]), (0xFA19, [0x795E]), (0xFA1A, [0x7965]), (0xFA1B, [0x798F]),
  (0xFA1C, [0x9756]), (0xFA1D, [0x7CBE]), (0xFA1E, [0x7FBD]), (0xFA20, [0x8612]),
  (0xFA22, [0x8AF8]), (0xFA25, [0x9038]), (0xFA26, [0x90FD]), (0xFA2A, [0x98EF]),
  (0xFA2B, [0x98FC]), (0xFA2C, [0x9928]), (0xFA2D, [0x9DB4]), (0xFA2E, [0x90DE]),
  (0xFA2F, [0x96B7]), (0xFA30, [0x4FAE]), (0xFA31, [0x50E7]), (0xFA32, [0x514D]),
  (0xFA33, [0x52C9]), (0xFA34, [0x52E4]), (0xFA35, [0x5351]), (0xFA36, [0x559D]),
  (0xFA37, [0x5606]), (0xFA38, [0x5668]), (0xFA39, [0x5840]), (0xFA3A, [0x58A8]),
  (0xFA3B, [0x5C64]), (0xFA3C, [0x5C6E]), (0xFA3D, [0x6094]), (0xFA3E, [0x6168]),
  (0xFA3F, [0x618E]), (0xFA40, [0x61F2]), (0xFA41, [0x654F]), (0xFA42, [0x65E2]),
  (0xFA43, [0x6691]), (0xFA44, [0x6885]), (0xFA45, [0x6D77]), (0xFA46, [0x6E1A]),
  (0xFA47, [0x6F22]), (0xFA48, [0x716E]), (0xFA49, [0x722B]), (0xFA4A, [0x7422]),
  (0xFA4B, [0x7891]), (0xFA4C, [0x793E]), (0xFA4D, [0x7949]), (0xFA4E, [0x7948]),
  (0xFA4F, [0x7950]), (0xFA50, [0x7956]), (0xFA51, [0x795D]), (0xFA52, [0x798D]),
  (0xFA53, [0x798E]), (0xFA54, [0x7A40]), (0xFA55, [0x7A81]), (0xFA56, [0x7BC0]),
  (0xFA57, [0x7DF4]), (0xFA58, [0x7E09]), (0xFA59, [0x7E41]), (0xFA5A, [0x7F72]),
  (0xFA5B, [0x8005]), (0xFA5C, [0x81ED]), (0xFA5D, [0x8279]), (0xFA5E, [0x8279]),
  (0xFA5F, [0x8457]), (0xFA60, [0x8910]), (0xFA61, [0x8996]), (0xFA62, [0x8B01]),
  (0xFA63, [0x8B39]), (0xFA64, [0x8CD3]), (0xFA65, [0x8D08]), (0xFA66, [0x8FB6]),
  (0xFA67, [0x9038]), (0xFA68, [0x96E3]), (0xFA69, [0x97FF]), (0xFA6A, [0x983B]),
  (0xFA6B, [0x6075]), (0xFA6C, [0x242EE]), (0xFA6D, [0x8218]), (0xFA70, [0x4E26]),
  (0xFA71, [0x51B5]), (0xFA72, [0x5168]), (0xFA73, [0x4F80]), (0xFA74, [0x5145]),
  (0xFA75, [0x5180]), (0xFA76, [0x52C7]), (0xFA77, [0x52FA]), (0xFA78, [0x559D]),
  (0xFA79, [0x5555]), (0xFA7A, [0x5599]), (0xFA7B, [0x55E2]), (0xFA7C, [0x585A]),
  (0xFA7D, [0x58B3]), (0xFA7E, [0x5944]), (0xFA7F, [0x5954]), (0xFA80, [0x5A62]),
  (0xFA81, [0x5B28]), (0xFA82, [0x5ED2]), (0xFA83, [0x5ED9]), (0xFA84, [0x5F69]),
  (0xFA85, [0x5FAD]), (0xFA86, [0x60D8]), (0xFA87, [0x614E]), (0xFA88, [0x6108]),
  (0xFA89, [0x618E]), (0xFA8A, [0x6160]), (0xFA8B, [0x61F2]), (0xFA8C, [0x6234]),
  (0xFA8D, [0x63C4]), (0xFA8E, [0x641C]), (0xFA8F, [0x6452]), (0xFA90, [0x6556])]

def pageFA91 : List (Nat × List Nat) := [
  (0xFA91, [0x6674]), (0xFA92, [0x6717]), (0xFA93, [0x671B]), (0xFA94, [0x6756]),
  (0xFA95, [0x6B79]), (0xFA96, [0x6BBA]), (0xFA97, [0x6D41]), (0xFA98, [0x6EDB]),
  (0xFA99, [0x6ECB]), (0xFA9A, [0x6F22]), (0xFA9B, [0x701E]), (0xFA9C, [0x716E]),
  (0xFA9D, [0x77A7]), (0xFA9E, [0x7235]), (0xFA9F, [0x72AF]), (0xFAA0, [0x732A]),
  (0xFAA1, [0x7471]), (0xFAA2, [0x7506]), (0xFAA3, [0x753B]), (0xFAA4, [0x761D]),
  (0xFAA5, [0x761F]), (0xFAA6, [0x76CA]), (0xFAA7, [0x76DB]), (0xFAA8, [0x76F4]),
  (0xFAA9, [0x774A]), (0xFAAA, [0x7740]), (0xFAAB, [0x78CC]), (0xFAAC, [0x7AB1]),
  (0xFAAD, [0x7BC0]), (0xFAAE, [0x7C7B]), (0xFAAF, [0x7D5B]), (0xFAB0, [0x7DF4]),
  (0xFAB1, [0x7F3E]), (0xFAB2, [0x8005]), (0xFAB3, [0x8352]), (0xFAB4, [0x83EF]),
  (0xFAB5, [0x8779]), (0xFAB6, [0x8941]), (0xFAB7, [0x8986]), (0xFAB8, [0x8996]),
  (0xFAB9, [0x8ABF]), (0xFABA, [0x8AF8]), (0xFABB, [0x8ACB]), (0xFABC, [0x8B01]),
  (0xFABD, [0x8AFE]), (0xFABE, [0x8AED]), (0xFABF, [0x8B39]), (0xFAC0, [0x8B8A]),
  (0xFAC1, [0x8D08]), (0xFAC2, [0x8F38]), (0xFAC3, [0x9072]), (0xFAC4, [0x9199]),
  (0xFAC5, [0x9276]), (0xFAC6, [0x967C]), (0xFAC7, [0x96E3]), (0xFAC8, [0x9756]),
  (0xFAC9, [0x97DB]), (0xFACA, [0x97FF]), (0xFACB, [0x980B]), (0xFACC, [0x983B]),
  (0xFACD, [0x9B12]), (0xFACE, [0x9F9C]), (0xFACF, [0x2284A]), (0xFAD0, [0x22844]),
  (0xFAD1, [0x233D5]), (0xFAD2, [0x3B9D]), (0xFAD3, [0x4018]), (0xFAD4, [0x4039]),
  (0xFAD5, [0x25249]), (0xFAD6, [0x25CD0]), (0xFAD7, [0x27ED3]), (0xFAD8, [0x9F43]),
  (0xFAD9, [0x9F8E]), (0xFB00, [0x0066, 0x0066]), (0xFB01, [0x0066, 0x0069]),
  (0xFB02, [0x0066, 0x006C]), (0xFB03, [0x0066, 0x0066, 0x0069]),
  (0xFB04, [0x0066, 0x0066, 0x006C]), (0xFB05, [0x0073, 0x0074]), (0xFB06, [0x0073, 0x0074]),
  (0xFB13, [0x0574, 0x0576]), (0xFB14, [0x0574, 0x0565]), (0xFB15, [0x0574, 0x056B]),
  (0xFB16, [0x057E, 0x0576]), (0xFB17, [0x0574, 0x056D]), (0xFB1D, [0x05D9, 0x05B4]),
  (0xFB1F, [0x05F2, 0x05B7]), (0xFB20, [0x05E2]), (0xFB21, [0x05D0]), (0xFB22, [0x05D3]),
  (0xFB23, [0x05D4]), (0xFB24, [0x05DB]), (0xFB25, [0x05DC]), (0xFB26, [0x05DD]),
  (0xFB27, [0x05E8]), (0xFB28, [0x05EA]), (0xFB29, [0x002B]), (0xFB2A, [0x05E9, 0x05C1]),
  (0xFB2B, [0x05E9, 0x05C2]), (0xFB2C, [0x05E9, 0x05BC, 0x05C1]),
  (0xFB2D, [0x05E9, 0x05BC, 0x05C2]), (0xFB2E, [0x05D0, 0x05B7]), (0xFB2F, [0x05D0, 0x05B8]),
  (0xFB30, [0x05D0, 0x05BC]), (0xFB31, [0x05D1, 0x05BC]), (0xFB32, [0x05D2, 0x05BC]),
  (0xFB33, [0x05D3, 0x05BC]), (0xFB34, [0x05D4, 0x05BC]), (0xFB35, [0x05D5, 0x05BC]),
  (0xFB36, [0x05D6, 0x05BC]), (0xFB38, [0x05D8, 0x05BC]), (0xFB39, [0x05D9, 0x05BC]),
  (0xFB3A, [0x05DA, 0x05BC]), (0xFB3B, [0x05DB, 0x05BC]), (0xFB3C, [0x05DC, 0x05BC]),
  (0xFB3E, [0x05DE, 0x05BC]), (0xFB40, [0x05E0, 0x05BC]), (0xFB41, [0x05E1, 0x05BC]),
  (0xFB43, [0x05E3, 0x05BC]), (0xFB44, [0x05E4, 0x05BC]), (0xFB46, [0x05E6, 0x05BC]),
  (0xFB47, [0x05E7, 0x05BC]), (0xFB48, [0x05E8, 0x05BC]), (0xFB49, [0x05E9, 0x05BC]),
  (0xFB4A, [0x05EA, 0x05BC]), (0xFB4B, [0x05D5, 0x05B9]), (0xFB4C, [0x05D1, 0x05BF]),
  (0xFB4D, [0x05DB, 0x05BF]), (0xFB4E, [0x05E4, 0x05BF]), (0xFB4F, [0x05D0, 0x05DC]),
  (0xFB50, [0x0671]), (0xFB51, [0x0671]), (0xFB52, [0x067B]), (0xFB53, [0x067B]),
  (0xFB54, [0x067B]), (0xFB55, [0x067B]), (0xFB56, [0x067E]), (0xFB57, [0x067E]),
  (0xFB58, [0x067E]), (0xFB59, [0x067E]), (0xFB5A, [0x0680]), (0xFB5B, [0x0680]),
  (0xFB5C, [0x0680]), (0xFB5D, [0x0680]), (0xFB5E, [0x067A]), (0xFB5F, [0x067A]),
  (0xFB60, [0x067A]), (0xFB61, [0x067A]), (0xFB62, [0x067F]), (0xFB63, [0x067F]),
  (0xFB64, [0x067F]), (0xFB65, [0x067F]), (0xFB66, [0x0679]), (0xFB67, [0x0679]),
  (0xFB68, [0x0679]), (0xFB69, [0x0679]), (0xFB6A, [0x06A4]), (0xFB6B, [0x06A4]),
  (0xFB6C, [0x06A4]), (0xFB6D, [0x06A4]), (0xFB6E, [0x06A6]), (0xFB6F, [0x06A6]),
  (0xFB70, [0x06A6]), (0xFB71, [0x06A6]), (0xFB72, [0x0684]), (0xFB73, [0x0684]),
  (0xFB74, [0x0684]), (0xFB75, [0x0684]), (0xFB76, [0x0683]), (0xFB77, [0x0683]),
  (0xFB78, [0x0683]), (0xFB79, [0x0683]), (0xFB7A, [0x0686]), (0xFB7B, [0x0686]),
  (0xFB7C, [0x0686]), (0xFB7D, [0x0686]), (0xFB7E, [0x0687]), (0xFB7F, [0x0687]),
  (0xFB80, [0x0687]), (0xFB81, [0x0687]), (0xFB82, [0x068D]), (0xFB83, [0x068D]),
  (0xFB84, [0x068C]), (0xFB85, [0x068C]), (0xFB86, [0x068E]), (0xFB87, [0x068E]),
  (0xFB88, [0x0688]), (0xFB89, [0x0688]), (0xFB8A, [0x0698]), (0xFB8B, [0x0698]),
  (0xFB8C, [0x0691]), (0xFB8D, [0x0691]), (0xFB8E, [0x06A9]), (0xFB8F, [0x06A9]),
  (0xFB90, [0x06A9]), (0xFB91, [0x06A9]), (0xFB92, [0x06AF]), (0xFB93, [0x06AF]),
  (0xFB94, [0x06AF]), (0xFB95, [0x06AF])]

def pageFB96 : List (Nat × List Nat) := [
  (0xFB96, [0x06B3]), (0xFB97, [0x06B3]), (0xFB98, [0x06B3]), (0xFB99, [0x06B3]),
  (0xFB9A, [0x06B1]), (0xFB9B, [0x06B1]), (0xFB9C, [0x06B1]), (0xFB9D, [0x06B1]),
  (0xFB9E, [0x06BA]), (0xFB9F, [0x06BA]), (0xFBA0, [0x06BB]), (0xFBA1, [0x06BB]),
  (0xFBA2, [0x06BB]), (0xFBA3, [0x06BB]), (0xFBA4, [0x06D5, 0x0654]), (0xFBA5, [0x06D5, 0x0654]),
  (0xFBA6, [0x06C1]), (0xFBA7, [0x06C1]), (0xFBA8, [0x06C1]), (0xFBA9, [0x06C1]),
  (0xFBAA, [0x06BE]), (0xFBAB, [0x06BE]), (0xFBAC, [0x06BE]), (0xFBAD, [0x06BE]),
  (0xFBAE, [0x06D2]), (0xFBAF, [0x06D2]), (0xFBB0, [0x06D2, 0x0654]), (0xFBB1, [0x06D2, 0x0654]),
  (0xFBD3, [0x06AD]), (0xFBD4, [0x06AD]), (0xFBD5, [0x06AD]), (0xFBD6, [0x06AD]),
  (0xFBD7, [0x06C7]), (0xFBD8, [0x06C7]), (0xFBD9, [0x06C6]), (0xFBDA, [0x06C6]),
  (0xFBDB, [0x06C8]), (0xFBDC, [0x06C8]), (0xFBDD, [0x06C7, 0x0674]), (0xFBDE, [0x06CB]),
  (0xFBDF, [0x06CB]), (0xFBE0, [0x06C5]), (0xFBE1, [0x06C5]), (0xFBE2, [0x06C9]),
  (0xFBE3, [0x06C9]), (0xFBE4, [0x06D0]), (0xFBE5, [0x06D0]), (0xFBE6, [0x06D0]),
  (0xFBE7, [0x06D0]), (0xFBE8, [0x0649]), (0xFBE9, [0x0649]), (0xFBEA, [0x064A, 0x0654, 0x0627]),
  (0xFBEB, [0x064A, 0x0654, 0x0627]), (0xFBEC, [0x064A, 0x0654, 0x06D5]),
  (0xFBED, [0x064A, 0x0654, 0x06D5]), (0xFBEE, [0x064A, 0x0654, 0x0648]),
  (0xFBEF, [0x064A, 0x0654, 0x0648]), (0xFBF0, [0x064A, 0x0654, 0x06C7]),
  (0xFBF1, [0x064A, 0x0654, 0x06C7]), (0xFBF2, [0x064A, 0x0654, 0x06C6]),
  (0xFBF3, [0x064A, 0x0654, 0x06C6]), (0xFBF4, [0x064A, 0x0654, 0x06C8]),
  (0xFBF5, [0x064A, 0x0654, 0x06C8]), (0xFBF6, [0x064A, 0x0654, 0x06D0]),
  (0xFBF7, [0x064A, 0x0654, 0x06D0]), (0xFBF8, [0x064A, 0x0654, 0x06D0]),
  (0xFBF9, [0x064A, 0x0654, 0x0649]), (0xFBFA, [0x064A, 0x0654, 0x0649]),
  (0xFBFB, [0x064A, 0x0654, 0x0649]), (0xFBFC, [0x06CC]), (0xFBFD, [0x06CC]), (0xFBFE, [0x06CC]),
  (0xFBFF, [0x06CC]), (0xFC00, [0x064A, 0x0654, 0x062C]), (0xFC01, [0x064A, 0x0654, 0x062D]),
  (0xFC02, [0x064A, 0x0654, 0x0645]), (0xFC03, [0x064A, 0x0654, 0x0649]),
  (0xFC04, [0x064A, 0x0654, 0x064A]), (0xFC05, [0x0628, 0x062C]), (0xFC06, [0x0628, 0x062D]),
  (0xFC07, [0x0628, 0x062E]), (0xFC08, [0x0628, 0x0645]), (0xFC09, [0x0628, 0x0649]),
  (0xFC0A, [0x0628, 0x064A]), (0xFC0B, [0x062A, 0x062C]), (0xFC0C, [0x062A, 0x062D]),
  (0xFC0D, [0x062A, 0x062E]), (0xFC0E, [0x062A, 0x0645]), (0xFC0F, [0x062A, 0x0649]),
  (0xFC10, [0x062A, 0x064A]), (0xFC11, [0x062B, 0x062C]), (0xFC12, [0x062B, 0x0645]),
  (0xFC13, [0x062B, 0x0649]), (0xFC14, [0x062B, 0x064A]), (0xFC15, [0x062C, 0x062D]),
  (0xFC16, [0x062C, 0x0645]), (0xFC17, [0x062D, 0x062C]), (0xFC18, [0x062D, 0x0645]),
  (0xFC19, [0x062E, 0x062C]), (0xFC1A, [0x062E, 0x062D]), (0xFC1B, [0x062E, 0x0645]),
  (0xFC1C, [0x0633, 0x062C]), (0xFC1D, [0x0633, 0x062D]), (0xFC1E, [0x0633, 0x062E]),
  (0xFC1F, [0x0633, 0x0645]), (0xFC20, [0x0635, 0x062D]), (0xFC21, [0x0635, 0x0645]),
  (0xFC22, [0x0636, 0x062C]), (0xFC23, [0x0636, 0x062D]), (0xFC24, [0x0636, 0x062E]),
  (0xFC25, [0x0636, 0x0645]), (0xFC26, [0x0637, 0x062D]), (0xFC27, [0x0637, 0x0645]),
  (0xFC28, [0x0638, 0x0645]), (0xFC29, [0x0639, 0x062C]), (0xFC2A, [0x0639, 0x0645]),
  (0xFC2B, [0x063A, 0x062C]), (0xFC2C, [0x063A, 0x0645]), (0xFC2D, [0x0641, 0x062C]),
  (0xFC2E, [0x0641, 0x062D]), (0xFC2F, [0x0641, 0x062E]), (0xFC30, [0x0641, 0x0645]),
  (0xFC31, [0x0641, 0x0649]), (0xFC32, [0x0641, 0x064A]), (0xFC33, [0x0642, 0x062D]),
  (0xFC34, [0x0642, 0x0645]), (0xFC35, [0x0642, 0x0649]), (0xFC36, [0x0642, 0x064A]),
  (0xFC37, [0x0643, 0x0627]), (0xFC38, [0x0643, 0x062C]), (0xFC39, [0x0643, 0x062D]),
  (0xFC3A, [0x0643, 0x062E]), (0xFC3B, [0x0643, 0x0644]), (0xFC3C, [0x0643, 0x0645]),
  (0xFC3D, [0x0643, 0x0649]), (0xFC3E, [0x0643, 0x064A]), (0xFC3F, [0x0644, 0x062C]),
  (0xFC40, [0x0644, 0x062D]), (0xFC41, [0x0644, 0x062E]), (0xFC42, [0x0644, 0x0645]),
  (0xFC43, [0x0644, 0x0649]), (0xFC44, [0x0644, 0x064A]), (0xFC45, [0x0645, 0x062C]),
  (0xFC46, [0x0645, 0x062D]), (0xFC47, [0x0645, 0x062E]), (0xFC48, [0x0645, 0x0645]),
  (0xFC49, [0x0645, 0x0649]), (0xFC4A, [0x0645, 0x064A]), (0xFC4B, [0x0646, 0x062C]),
  (0xFC4C, [0x0646, 0x062D]), (0xFC4D, [0x0646, 0x062E]), (0xFC4E, [0x0646, 0x0645]),
  (0xFC4F, [0x0646, 0x0649]), (0xFC50, [0x0646, 0x064A]), (0xFC51, [0x0647, 0x062C]),
  (0xFC52, [0x0647, 0x0645]), (0xFC53, [0x0647, 0x0649]), (0xFC54, [0x0647, 0x064A]),
  (0xFC55, [0x064A, 0x062C]), (0xFC56, [0x064A, 0x062D]), (0xFC57, [0x064A, 0x062E]),
  (0xFC58, [0x064A, 0x0645]), (0xFC59, [0x064A, 0x0649]), (0xFC5A, [0x064A, 0x064A]),
  (0xFC5B, [0x0630, 0x0670]), (0xFC5C, [0x0631, 0x0670]), (0xFC5D, [0x0649, 0x0670]),
  (0xFC5E, [0x0020, 0x064C, 0x0651]), (0xFC5F, [0x0020, 0x064D, 0x0651]),
  (0xFC60, [0x0020, 0x064E, 0x0651]), (0xFC61, [0x0020, 0x064F, 0x0651]),
  (0xFC62, [0x0020, 0x0650, 0x0651]), (0xFC63, [0x0020, 0x0651, 0x0670]),
  (0xFC64, [0x064A, 0x0654, 0x0631]), (0xFC65, [0x064A, 0x0654, 0x0632]),
  (0xFC66, [0x064A, 0x0654, 0x0645]), (0xFC67, [0x064A, 0x0654, 0x0646]),
  (0xFC68, [0x064A, 0x0654, 0x0649]), (0xFC69, [0x064A, 0x0654, 0x064A]),
  (0xFC6A, [0x0628, 0x0631]), (0xFC6B, [0x0628, 0x0632]), (0xFC6C, [0x0628, 0x0645]),
  (0xFC6D, [0x0628, 0x0646]), (0xFC6E, [0x0628, 0x0649]), (0xFC6F, [0x0628, 0x064A]),
  (0xFC70, [0x062A, 0x0631]), (0xFC71, [0x062A, 0x0632]), (0xFC72, [0x062A, 0x0645]),
  (0xFC73, [0x062A, 0x0646]), (0xFC74, [0x062A, 0x0649]), (0xFC75, [0x062A, 0x064A]),
  (0xFC76, [0x062B, 0x0631]), (0xFC77, [0x062B, 0x0632]), (0xFC78, [0x062B, 0x0645]),
  (0xFC79, [0x062B, 0x0646]), (0xFC7A, [0x062B, 0x0649]), (0xFC7B, [0x062B, 0x064A]),
  (0xFC7C, [0x0641, 0x0649]), (0xFC7D, [0x0641, 0x064A]), (0xFC7E, [0x0642, 0x0649])]

def pageFC7F : List (Nat × List Nat) := [
  (0xFC7F, [0x0642, 0x064A]), (0xFC80, [0x0643, 0x0627]), (0xFC81, [0x0643, 0x0644]),
  (0xFC82, [0x0643, 0x0645]), (0xFC83, [0x0643, 0x0649]), (0xFC84, [0x0643, 0x064A]),
  (0xFC85, [0x0644, 0x0645]), (0xFC86, [0x0644, 0x0649]), (0xFC87, [0x0644, 0x064A]),
  (0xFC88, [0x0645, 0x0627]), (0xFC89, [0x0645, 0x0645]), (0xFC8A, [0x0646, 0x0631]),
  (0xFC8B, [0x0646, 0x0632]), (0xFC8C, [0x0646, 0x0645]), (0xFC8D, [0x0646, 0x0646]),
  (0xFC8E, [0x0646, 0x0649]), (0xFC8F, [0x0646, 0x064A]), (0xFC90, [0x0649, 0x0670]),
  (0xFC91, [0x064A, 0x0631]), (0xFC92, [0x064A, 0x0632]), (0xFC93, [0x064A, 0x0645]),
  (0xFC94, [0x064A, 0x0646]), (0xFC95, [0x064A, 0x0649]), (0xFC96, [0x064A, 0x064A]),
  (0xFC97, [0x064A, 0x0654, 0x062C]), (0xFC98, [0x064A, 0x0654, 0x062D]),
  (0xFC99, [0x064A, 0x0654, 0x062E]), (0xFC9A, [0x064A, 0x0654, 0x0645]),
  (0xFC9B, [0x064A, 0x0654, 0x0647]), (0xFC9C, [0x0628, 0x062C]), (0xFC9D, [0x0628, 0x062D]),
  (0xFC9E, [0x0628, 0x062E]), (0xFC9F, [0x0628, 0x0645]), (0xFCA0, [0x0628, 0x0647]),
  (0xFCA1, [0x062A, 0x062C]), (0xFCA2, [0x062A, 0x062D]), (0xFCA3, [0x062A, 0x062E]),
  (0xFCA4, [0x062A, 0x0645]), (0xFCA5, [0x062A, 0x0647]), (0xFCA6, [0x062B, 0x0645]),
  (0xFCA7, [0x062C, 0x062D]), (0xFCA8, [0x062C, 0x0645]), (0xFCA9, [0x062D, 0x062C]),
  (0xFCAA, [0x062D, 0x0645]), (0xFCAB, [0x062E, 0x062C]), (0xFCAC, [0x062E, 0x0645]),
  (0xFCAD, [0x0633, 0x062C]), (0xFCAE, [0x0633, 0x062D]), (0xFCAF, [0x0633, 0x062E]),
  (0xFCB0, [0x0633, 0x0645]), (0xFCB1, [0x0635, 0x062D]), (0xFCB2, [0x0635, 0x062E]),
  (0xFCB3, [0x0635, 0x0645]), (0xFCB4, [0x0636, 0x062C]), (0xFCB5, [0x0636, 0x062D]),
  (0xFCB6, [0x0636, 0x062E]), (0xFCB7, [0x0636, 0x0645]), (0xFCB8, [0x0637, 0x062D]),
  (0xFCB9, [0x0638, 0x0645]), (0xFCBA, [0x0639, 0x062C]), (0xFCBB, [0x0639, 0x0645]),
  (0xFCBC, [0x063A, 0x062C]), (0xFCBD, [0x063A, 0x0645]), (0xFCBE, [0x0641, 0x062C]),
  (0xFCBF, [0x0641, 0x062D]), (0xFCC0, [0x0641, 0x062E]), (0xFCC1, [0x0641, 0x0645]),
  (0xFCC2, [0x0642, 0x062D]), (0xFCC3, [0x0642, 0x0645]), (0xFCC4, [0x0643, 0x062C]),
  (0xFCC5, [0x0643, 0x062D]), (0xFCC6, [0x0643, 0x062E]), (0xFCC7, [0x0643, 0x0644]),
  (0xFCC8, [0x0643, 0x0645]), (0xFCC9, [0x0644, 0x062C]), (0xFCCA, [0x0644, 0x062D]),
  (0xFCCB, [0x0644, 0x062E]), (0xFCCC, [0x0644, 0x0645]), (0xFCCD, [0x0644, 0x0647]),
  (0xFCCE, [0x0645, 0x062C]), (0xFCCF, [0x0645, 0x062D]), (0xFCD0, [0x0645, 0x062E]),
  (0xFCD1, [0x0645, 0x0645]), (0xFCD2, [0x0646, 0x062C]), (0xFCD3, [0x0646, 0x062D]),
  (0xFCD4, [0x0646, 0x062E]), (0xFCD5, [0x0646, 0x0645]), (0xFCD6, [0x0646, 0x0647]),
  (0xFCD7, [0x0647, 0x062C]), (0xFCD8, [0x0647, 0x0645]), (0xFCD9, [0x0647, 0x0670]),
  (0xFCDA, [0x064A, 0x062C]), (0xFCDB, [0x064A, 0x062D]), (0xFCDC, [0x064A, 0x062E]),
  (0xFCDD, [0x064A, 0x0645]), (0xFCDE, [0x064A, 0x0647]), (0xFCDF, [0x064A, 0x0654, 0x0645]),
  (0xFCE0, [0x064A, 0x0654, 0x0647]), (0xFCE1, [0x0628, 0x0645]), (0xFCE2, [0x0628, 0x0647]),
  (0xFCE3, [0x062A, 0x0645]), (0xFCE4, [0x062A, 0x0647]), (0xFCE5, [0x062B, 0x0645]),
  (0xFCE6, [0x062B, 0x0647]), (0xFCE7, [0x0633, 0x0645]), (0xFCE8, [0x0633, 0x0647]),
  (0xFCE9, [0x0634, 0x0645]), (0xFCEA, [0x0634, 0x0647]), (0xFCEB, [0x0643, 0x0644]),
  (0xFCEC, [0x0643, 0x0645]), (0xFCED, [0x0644, 0x0645]), (0xFCEE, [0x0646, 0x0645]),
  (0xFCEF, [0x0646, 0x0647]), (0xFCF0, [0x064A, 0x0645]), (0xFCF1, [0x064A, 0x0647]),
  (0xFCF2, [0x0640, 0x064E, 0x0651]), (0xFCF3, [0x0640, 0x064F, 0x0651]),
  (0xFCF4, [0x0640, 0x0650, 0x0651]), (0xFCF5, [0x0637, 0x0649]), (0xFCF6, [0x0637, 0x064A]),
  (0xFCF7, [0x0639, 0x0649]), (0xFCF8, [0x0639, 0x064A]), (0xFCF9, [0x063A, 0x0649]),
  (0xFCFA, [0x063A, 0x064A]), (0xFCFB, [0x0633, 0x0649]), (0xFCFC, [0x0633, 0x064A]),
  (0xFCFD, [0x0634, 0x0649]), (0xFCFE, [0x0634, 0x064A]), (0xFCFF, [0x062D, 0x0649]),
  (0xFD00, [0x062D, 0x064A]), (0xFD01, [0x062C, 0x0649]), (0xFD02, [0x062C, 0x064A]),
  (0xFD03, [0x062E, 0x0649]), (0xFD04, [0x062E, 0x064A]), (0xFD05, [0x0635, 0x0649]),
  (0xFD06, [0x0635, 0x064A]), (0xFD07, [0x0636, 0x0649]), (0xFD08, [0x0636, 0x064A]),
  (0xFD09, [0x0634, 0x062C]), (0xFD0A, [0x0634, 0x062D]), (0xFD0B, [0x0634, 0x062E]),
  (0xFD0C, [0x0634, 0x0645]), (0xFD0D, [0x0634, 0x0631]), (0xFD0E, [0x0633, 0x0631]),
  (0xFD0F, [0x0635, 0x0631]), (0xFD10, [0x0636, 0x0631]), (0xFD11, [0x0637, 0x0649]),
  (0xFD12, [0x0637, 0x064A]), (0xFD13, [0x0639, 0x0649]), (0xFD14, [0x0639, 0x064A]),
  (0xFD15, [0x063A, 0x0649]), (0xFD16, [0x063A, 0x064A]), (0xFD17, [0x0633, 0x0649]),
  (0xFD18, [0x0633, 0x064A]), (0xFD19, [0x0634, 0x0649]), (0xFD1A, [0x0634, 0x064A]),
  (0xFD1B, [0x062D, 0x0649]), (0xFD1C, [0x062D, 0x064A]), (0xFD1D, [0x062C, 0x0649]),
  (0xFD1E, [0x062C, 0x064A]), (0xFD1F, [0x062E, 0x0649]), (0xFD20, [0x062E, 0x064A]),
  (0xFD21, [0x0635, 0x0649]), (0xFD22, [0x0635, 0x064A]), (0xFD23, [0x0636, 0x0649]),
  (0xFD24, [0x0636, 0x064A]), (0xFD25, [0x0634, 0x062C]), (0xFD26, [0x0634, 0x062D]),
  (0xFD27, [0x0634, 0x062E]), (0xFD28, [0x0634, 0x0645]), (0xFD29, [0x0634, 0x0631]),
  (0xFD2A, [0x0633, 0x0631]), (0xFD2B, [0x0635, 0x0631]), (0xFD2C, [0x0636, 0x0631]),
  (0xFD2D, [0x0634, 0x062C]), (0xFD2E, [0x0634, 0x062D]), (0xFD2F, [0x0634, 0x062E]),
  (0xFD30, [0x0634, 0x0645]), (0xFD31, [0x0633, 0x0647]), (0xFD32, [0x0634, 0x0647]),
  (0xFD33, [0x0637, 0x0645]), (0xFD34, [0x0633, 0x062C]), (0xFD35, [0x0633, 0x062D]),
  (0xFD36, [0x0633, 0x062E]), (0xFD37, [0x0634, 0x062C]), (0xFD38, [0x0634, 0x062D]),
  (0xFD39, [0x0634, 0x062E]), (0xFD3A, [0x0637, 0x0645]), (0xFD3B, [0x0638, 0x0645]),
  (0xFD3C, [0x0627, 0x064B]), (0xFD3D, [0x0627, 0x064B]), (0xFD50, [0x062A, 0x062C, 0x0645]),
  (0xFD51, [0x062A, 0x062D, 0x062C]), (0xFD52, [0x062A, 0x062D, 0x062C]),
  (0xFD53, [0x062A, 0x062D, 0x0645]), (0xFD54, [0x062A, 0x062E, 0x0645]),
  (0xFD55, [0x062A, 0x0645, 0x062C]), (0xFD56, [0x062A, 0x0645, 0x062D]),
  (0xFD57, [0x062A, 0x0645, 0x062E]), (0xFD58, [0x062C, 0x0645, 0x062D])]

def pageFD59 : List (Nat × List Nat) := [
  (0xFD59, [0x062C, 0x0645, 0x062D]), (0xFD5A, [0x062D, 0x0645, 0x064A]),
  (0xFD5B, [0x062D, 0x0645, 0x0649]), (0xFD5C, [0x0633, 0x062D, 0x062C]),
  (0xFD5D, [0x0633, 0x062C, 0x062D]), (0xFD5E, [0x0633, 0x062C, 0x0649]),
  (0xFD5F, [0x0633, 0x0645, 0x062D]), (0xFD60, [0x0633, 0x0645, 0x062D]),
  (0xFD61, [0x0633, 0x0645, 0x062C]), (0xFD62, [0x0633, 0x0645, 0x0645]),
  (0xFD63, [0x0633, 0x0645, 0x0645]), (0xFD64, [0x0635, 0x062D, 0x062D]),
  (0xFD65, [0x0635, 0x062D, 0x062D]), (0xFD66, [0x0635, 0x0645, 0x0645]),
  (0xFD67, [0x0634, 0x062D, 0x0645]), (0xFD68, [0x0634, 0x062D, 0x0645]),
  (0xFD69, [0x0634, 0x062C, 0x064A]), (0xFD6A, [0x0634, 0x0645, 0x062E]),
  (0xFD6B, [0x0634, 0x0645, 0x062E]), (0xFD6C, [0x0634, 0x0645, 0x0645]),
  (0xFD6D, [0x0634, 0x0645, 0x0645]), (0xFD6E, [0x0636, 0x062D, 0x0649]),
  (0xFD6F, [0x0636, 0x062E, 0x0645]), (0xFD70, [0x0636, 0x062E, 0x0645]),
  (0xFD71, [0x0637, 0x0645, 0x062D]), (0xFD72, [0x0637, 0x0645, 0x062D]),
  (0xFD73, [0x0637, 0x0645, 0x0645]), (0xFD74, [0x0637, 0x0645, 0x064A]),
  (0xFD75, [0x0639, 0x062C, 0x0645]), (0xFD76, [0x0639, 0x0645, 0x0645]),
  (0xFD77, [0x0639, 0x0645, 0x0645]), (0xFD78, [0x0639, 0x0645, 0x0649]),
  (0xFD79, [0x063A, 0x0645, 0x0645]), (0xFD7A, [0x063A, 0x0645, 0x064A]),
  (0xFD7B, [0x063A, 0x0645, 0x0649]), (0xFD7C, [0x0641, 0x062E, 0x0645]),
  (0xFD7D, [0x0641, 0x062E, 0x0645]), (0xFD7E, [0x0642, 0x0645, 0x062D]),
  (0xFD7F, [0x0642, 0x0645, 0x0645]), (0xFD80, [0x0644, 0x062D, 0x0645]),
  (0xFD81, [0x0644, 0x062D, 0x064A]), (0xFD82, [0x0644, 0x062D, 0x0649]),
  (0xFD83, [0x0644, 0x062C, 0x062C]), (0xFD84, [0x0644, 0x062C, 0x062C]),
  (0xFD85, [0x0644, 0x062E, 0x0645]), (0xFD86, [0x0644, 0x062E, 0x0645]),
  (0xFD87, [0x0644, 0x0645, 0x062D]), (0xFD88, [0x0644, 0x0645, 0x062D]),
  (0xFD89, [0x0645, 0x062D, 0x062C]), (0xFD8A, [0x0645, 0x062D, 0x0645]),
  (0xFD8B, [0x0645, 0x062D, 0x064A]), (0xFD8C, [0x0645, 0x062C, 0x062D]),
  (0xFD8D, [0x0645, 0x062C, 0x0645]), (0xFD8E, [0x0645, 0x062E, 0x062C]),
  (0xFD8F, [0x0645, 0x062E, 0x0645]), (0xFD92, [0x0645, 0x062C, 0x062E]),
  (0xFD93, [0x0647, 0x0645, 0x062C]), (0xFD94, [0x0647, 0x0645, 0x0645]),
  (0xFD95, [0x0646, 0x062D, 0x0645]), (0xFD96, [0x0646, 0x062D, 0x0649]),
  (0xFD97, [0x0646, 0x062C, 0x0645]), (0xFD98, [0x0646, 0x062C, 0x0645]),
  (0xFD99, [0x0646, 0x062C, 0x0649]), (0xFD9A, [0x0646, 0x0645, 0x064A]),
  (0xFD9B, [0x0646, 0x0645, 0x0649]), (0xFD9C, [0x064A, 0x0645, 0x0645]),
  (0xFD9D, [0x064A, 0x0645, 0x0645]), (0xFD9E, [0x0628, 0x062E, 0x064A]),
  (0xFD9F, [0x062A, 0x062C, 0x064A]), (0xFDA0, [0x062A, 0x062C, 0x0649]),
  (0xFDA1, [0x062A, 0x062E, 0x064A]), (0xFDA2, [0x062A, 0x062E, 0x0649]),
  (0xFDA3, [0x062A, 0x0645, 0x064A]), (0xFDA4, [0x062A, 0x0645, 0x0649]),
  (0xFDA5, [0x062C, 0x0645, 0x064A]), (0xFDA6, [0x062C, 0x062D, 0x0649]),
  (0xFDA7, [0x062C, 0x0645, 0x0649]), (0xFDA8, [0x0633, 0x062E, 0x0649]),
  (0xFDA9, [0x0635, 0x062D, 0x064A]), (0xFDAA, [0x0634, 0x062D, 0x064A]),
  (0xFDAB, [0x0636, 0x062D, 0x064A]), (0xFDAC, [0x0644, 0x062C, 0x064A]),
  (0xFDAD, [0x0644, 0x0645, 0x064A]), (0xFDAE, [0x064A, 0x062D, 0x064A]),
  (0xFDAF, [0x064A, 0x062C, 0x064A]), (0xFDB0, [0x064A, 0x0645, 0x064A]),
  (0xFDB1, [0x0645, 0x0645, 0x064A]), (0xFDB2, [0x0642, 0x0645, 0x064A]),
  (0xFDB3, [0x0646, 0x062D, 0x064A]), (0xFDB4, [0x0642, 0x0645, 0x062D]),
  (0xFDB5, [0x0644, 0x062D, 0x0645]), (0xFDB6, [0x0639, 0x0645, 0x064A]),
  (0xFDB7, [0x0643, 0x0645, 0x064A]), (0xFDB8, [0x0646, 0x062C, 0x062D]),
  (0xFDB9, [0x0645, 0x062E, 0x064A]), (0xFDBA, [0x0644, 0x062C, 0x0645]),
  (0xFDBB, [0x0643, 0x0645, 0x0645]), (0xFDBC, [0x0644, 0x062C, 0x0645]),
  (0xFDBD, [0x0646, 0x062C, 0x062D]), (0xFDBE, [0x062C, 0x062D, 0x064A]),
  (0xFDBF, [0x062D, 0x062C, 0x064A]), (0xFDC0, [0x0645, 0x062C, 0x064A]),
  (0xFDC1, [0x0641, 0x0645, 0x064A]), (0xFDC2, [0x0628, 0x062D, 0x064A]),
  (0xFDC3, [0x0643, 0x0645, 0x0645]), (0xFDC4, [0x0639, 0x062C, 0x0645]),
  (0xFDC5, [0x0635, 0x0645, 0x0645]), (0xFDC6, [0x0633, 0x062E, 0x064A]),
  (0xFDC7, [0x0646, 0x062C, 0x064A]), (0xFDF0, [0x0635, 0x0644, 0x06D2]),
  (0xFDF1, [0x0642, 0x0644, 0x06D2]), (0xFDF2, [0x0627, 0x0644, 0x0644, 0x0647]),
  (0xFDF3, [0x0627, 0x0643, 0x0628, 0x0631]), (0xFDF4, [0x0645, 0x062D, 0x0645, 0x062F]),
  (0xFDF5, [0x0635, 0x0644, 0x0639, 0x0645]), (0xFDF6, [0x0631, 0x0633, 0x0648, 0x0644]),
  (0xFDF7, [0x0639, 0x0644, 0x064A, 0x0647]), (0xFDF8, [0x0648, 0x0633, 0x0644, 0x0645]),
  (0xFDF9, [0x0635, 0x0644, 0x0649]),
  (0xFDFA, [0x0635, 0x0644, 0x0649, 0x0020, 0x0627, 0x0644, 0x0644, 0x0647, 0x0020, 0x0639, 0x0644, 0x064A, 0x0647, 0x0020, 0x0648, 0x0633, 0x0644, 0x0645]),
  (0xFDFB, [0x062C, 0x0644, 0x0020, 0x062C, 0x0644, 0x0627, 0x0644, 0x0647]),
  (0xFDFC, [0x0631, 0x06CC, 0x0627, 0x0644]), (0xFE10, [0x002C]), (0xFE11, [0x3001]),
  (0xFE12, [0x3002]), (0xFE13, [0x003A]), (0xFE14, [0x003B]), (0xFE15, [0x0021]),
  (0xFE16, [0x003F]), (0xFE17, [0x3016]), (0xFE18, [0x3017]), (0xFE19, [0x002E, 0x002E, 0x002E]),
  (0xFE30, [0x002E, 0x002E]), (0xFE31, [0x2014]), (0xFE32, [0x2013]), (0xFE33, [0x005F]),
  (0xFE34, [0x005F]), (0xFE35, [0x0028]), (0xFE36, [0x0029]), (0xFE37, [0x007B]),
  (0xFE38, [0x007D]), (0xFE39, [0x3014]), (0xFE3A, [0x3015]), (0xFE3B, [0x3010]),
  (0xFE3C, [0x3011]), (0xFE3D, [0x300A]), (0xFE3E, [0x300B]), (0xFE3F, [0x3008]),
  (0xFE40, [0x3009]), (0xFE47, [0x005B]), (0xFE48, [0x005D]), (0xFE49, [0x0020, 0x0305]),
  (0xFE4A, [0x0020, 0x0305]), (0xFE4B, [0x0020, 0x0305]), (0xFE4C, [0x0020, 0x0305]),
  (0xFE4D, [0x005F]), (0xFE4E, [0x005F]), (0xFE4F, [0x005F]), (0xFE50, [0x002C]),
  (0xFE51, [0x3001]), (0xFE52, [0x002E]), (0xFE54, [0x003B]), (0xFE55, [0x003A]),
  (0xFE56, [0x003F]), (0xFE57, [0x0021]), (0xFE58, [0x2014]), (0xFE59, [0x0028]),
  (0xFE5A, [0x0029]), (0xFE5B, [0x007B]), (0xFE5C, [0x007D]), (0xFE5D, [0x3014]),
  (0xFE5E, [0x3015]), (0xFE5F, [0x0023]), (0xFE60, [0x0026]), (0xFE61, [0x002A]),
  (0xFE62, [0x002B]), (0xFE63, [0x002D]), (0xFE64, [0x003C]), (0xFE65, [0x003E]),
  (0xFE66, [0x003D]), (0xFE68, [0x005C]), (0xFE69, [0x0024]), (0xFE6A, [0x0025]),
  (0xFE6B, [0x0040]), (0xFE70, [0x0020, 0x064B]), (0xFE71, [0x0640, 0x064B]),
  (0xFE72, [0x0020, 0x064C]), (0xFE74, [0x0020, 0x064D]), (0xFE76, [0x0020, 0x064E]),
  (0xFE77, [0x0640, 0x064E]), (0xFE78, [0x0020, 0x064F]), (0xFE79, [0x0640, 0x064F]),
  (0xFE7A, [0x0020, 0x0650]), (0xFE7B, [0x0640, 0x0650]), (0xFE7C, [0x0020, 0x0651]),
  (0xFE7D, [0x0640, 0x0651]), (0xFE7E, [0x0020, 0x0652]), (0xFE7F, [0x0640, 0x0652]),
  (0xFE80, [0x0621]), (0xFE81, [0x0627, 0x0653])]

def pageFE82 : List (Nat × List Nat) := [
  (0xFE82, [0x0627, 0x0653]), (0xFE83, [0x0627, 0x0654]), (0xFE84, [0x0627, 0x0654]),
  (0xFE85, [0x0648, 0x0654]), (0xFE86, [0x0648, 0x0654]), (0xFE87, [0x0627, 0x0655]),
  (0xFE88, [0x0627, 0x0655]), (0xFE89, [0x064A, 0x0654]), (0xFE8A, [0x064A, 0x0654]),
  (0xFE8B, [0x064A, 0x0654]), (0xFE8C, [0x064A, 0x0654]), (0xFE8D, [0x0627]), (0xFE8E, [0x0627]),
  (0xFE8F, [0x0628]), (0xFE90, [0x0628]), (0xFE91, [0x0628]), (0xFE92, [0x0628]),
  (0xFE93, [0x0629]), (0xFE94, [0x0629]), (0xFE95, [0x062A]), (0xFE96, [0x062A]),
  (0xFE97, [0x062A]), (0xFE98, [0x062A]), (0xFE99, [0x062B]), (0xFE9A, [0x062B]),
  (0xFE9B, [0x062B]), (0xFE9C, [0x062B]), (0xFE9D, [0x062C]), (0xFE9E, [0x062C]),
  (0xFE9F, [0x062C]), (0xFEA0, [0x062C]), (0xFEA1, [0x062D]), (0xFEA2, [0x062D]),
  (0xFEA3, [0x062D]), (0xFEA4, [0x062D]), (0xFEA5, [0x062E]), (0xFEA6, [0x062E]),
  (0xFEA7, [0x062E]), (0xFEA8, [0x062E]), (0xFEA9, [0x062F]), (0xFEAA, [0x062F]),
  (0xFEAB, [0x0630]), (0xFEAC, [0x0630]), (0xFEAD, [0x0631]), (0xFEAE, [0x0631]),
  (0xFEAF, [0x0632]), (0xFEB0, [0x0632]), (0xFEB1, [0x0633]), (0xFEB2, [0x0633]),
  (0xFEB3, [0x0633]), (0xFEB4, [0x0633]), (0xFEB5, [0x0634]), (0xFEB6, [0x0634]),
  (0xFEB7, [0x0634]), (0xFEB8, [0x0634]), (0xFEB9, [0x0635]), (0xFEBA, [0x0635]),
  (0xFEBB, [0x0635]), (0xFEBC, [0x0635]), (0xFEBD, [0x0636]), (0xFEBE, [0x0636]),
  (0xFEBF, [0x0636]), (0xFEC0, [0x0636]), (0xFEC1, [0x0637]), (0xFEC2, [0x0637]),
  (0xFEC3, [0x0637]), (0xFEC4, [0x0637]), (0xFEC5, [0x0638]), (0xFEC6, [0x0638]),
  (0xFEC7, [0x0638]), (0xFEC8, [0x0638]), (0xFEC9, [0x0639]), (0xFECA, [0x0639]),
  (0xFECB, [0x0639]), (0xFECC, [0x0639]), (0xFECD, [0x063A]), (0xFECE, [0x063A]),
  (0xFECF, [0x063A]), (0xFED0, [0x063A]), (0xFED1, [0x0641]), (0xFED2, [0x0641]),
  (0xFED3, [0x0641]), (0xFED4, [0x0641]), (0xFED5, [0x0642]), (0xFED6, [0x0642]),
  (0xFED7, [0x0642]), (0xFED8, [0x0642]), (0xFED9, [0x0643]), (0xFEDA, [0x0643]),
  (0xFEDB, [0x0643]), (0xFEDC, [0x0643]), (0xFEDD, [0x0644]), (0xFEDE, [0x0644]),
  (0xFEDF, [0x0644]), (0xFEE0, [0x0644]), (0xFEE1, [0x0645]), (0xFEE2, [0x0645]),
  (0xFEE3, [0x0645]), (0xFEE4, [0x0645]), (0xFEE5, [0x0646]), (0xFEE6, [0x0646]),
  (0xFEE7, [0x0646]), (0xFEE8, [0x0646]), (0xFEE9, [0x0647]), (0xFEEA, [0x0647]),
  (0xFEEB, [0x0647]), (0xFEEC, [0x0647]), (0xFEED, [0x0648]), (0xFEEE, [0x0648]),
  (0xFEEF, [0x0649]), (0xFEF0, [0x0649]), (0xFEF1, [0x064A]), (0xFEF2, [0x064A]),
  (0xFEF3, [0x064A]), (0xFEF4, [0x064A]), (0xFEF5, [0x0644, 0x0627, 0x0653]),
  (0xFEF6, [0x0644, 0x0627, 0x0653]), (0xFEF7, [0x0644, 0x0627, 0x0654]),
  (0xFEF8, [0x0644, 0x0627, 0x0654]), (0xFEF9, [0x0644, 0x0627, 0x0655]),
  (0xFEFA, [0x0644, 0x0627, 0x0655]), (0xFEFB, [0x0644, 0x0627]), (0xFEFC, [0x0644, 0x0627]),
  (0xFF5F, [0x2985]), (0xFF60, [0x2986]), (0xFF61, [0x3002]), (0xFF62, [0x300C]),
  (0xFF63, [0x300D]), (0xFF64, [0x3001]), (0xFF65, [0x30FB]), (0xFF66, [0x30F2]),
  (0xFF67, [0x30A1]), (0xFF68, [0x30A3]), (0xFF69, [0x30A5]), (0xFF6A, [0x30A7]),
  (0xFF6B, [0x30A9]), (0xFF6C, [0x30E3]), (0xFF6D, [0x30E5]), (0xFF6E, [0x30E7]),
  (0xFF6F, [0x30C3]), (0xFF70, [0x30FC]), (0xFF71, [0x30A2]), (0xFF72, [0x30A4]),
  (0xFF73, [0x30A6]), (0xFF74, [0x30A8]), (0xFF75, [0x30AA]), (0xFF76, [0x30AB]),
  (0xFF77, [0x30AD]), (0xFF78, [0x30AF]), (0xFF79, [0x30B1]), (0xFF7A, [0x30B3]),
  (0xFF7B, [0x30B5]), (0xFF7C, [0x30B7]), (0xFF7D, [0x30B9]), (0xFF7E, [0x30BB]),
  (0xFF7F, [0x30BD]), (0xFF80, [0x30BF]), (0xFF81, [0x30C1]), (0xFF82, [0x30C4]),
  (0xFF83, [0x30C6]), (0xFF84, [0x30C8]), (0xFF8B, [0x30D2]), (0xFF8C, [0x30D5]),
  (0xFF8D, [0x30D8]), (0xFF8E, [0x30DB]), (0xFF94, [0x30E4]), (0xFF95, [0x30E6]),
  (0xFF9C, [0x30EF]), (0xFF9D, [0x30F3]), (0xFF9E, [0x3099]), (0xFF9F, [0x309A]),
  (0xFFA0, [0x1160]), (0xFFA1, [0x1100]), (0xFFA2, [0x1101]), (0xFFA3, [0x11AA]),
  (0xFFA4, [0x1102]), (0xFFA5, [0x11AC]), (0xFFA6, [0x11AD]), (0xFFA7, [0x1103]),
  (0xFFA8, [0x1104]), (0xFFA9, [0x1105]), (0xFFB0, [0x111A]), (0xFFB1, [0x1106]),
  (0xFFB2, [0x1107]), (0xFFB3, [0x1108]), (0xFFB4, [0x1121]), (0xFFDA, [0x1173]),
  (0xFFDB, [0x1174]), (0xFFDC, [0x1175]), (0xFFE0, [0x00A2]), (0xFFE1, [0x00A3]),
  (0xFFE2, [0x00AC]), (0xFFE3, [0x0020, 0x0304]), (0xFFE4, [0x00A6]), (0xFFE5, [0x00A5]),
  (0xFFE6, [0x20A9]), (0xFFE8, [0x2502]), (0xFFED, [0x25A0]), (0xFFEE, [0x25CB])]

end SciCalc.Text.Compatibility
