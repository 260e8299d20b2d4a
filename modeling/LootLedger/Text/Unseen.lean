import LootLedger.Text.Runs

/-!
# Characters that cannot be seen

What a reader cannot see by itself: controls, blanks other than the space, format characters,
private and unassigned characters, and characters that belong to the one before them. These are
the Unicode general categories `Other` and `Separator` and the property `Grapheme_Extend`.

## Main definitions

* `Text.isUnseen`
-/

namespace LootLedger.Text

/-- Where unseen characters begin (`u`) and where others do (`o`). -/
def unseenTable : Runs Bool :=
  Runs.ofText (· == ['u'])
    "7fu a1o adu aeo 300u 370o 378u 37ao 380u 384o 38bu 38co 38du 38eo 3a2u 3a3o 483u 48ao 530u 531o
    557u 559o 58bu 58do 590u 5beo 5bfu 5c0o 5c1u 5c3o 5c4u 5c6o 5c7u 5d0o 5ebu 5efo 5f5u 606o 610u
    61bo 61cu 61do 64bu 660o 670u 671o 6d6u 6deo 6dfu 6e5o 6e7u 6e9o 6eau 6eeo 70eu 710o 711u 712o
    730u 74do 7a6u 7b1o 7b2u 7c0o 7ebu 7f4o 7fbu 7feo 816u 81ao 81bu 824o 825u 828o 829u 830o 83fu
    840o 859u 85eo 85fu 860o 86bu 870o 890u 8a0o 8cau 903o 93au 93bo 93cu 93do 941u 949o 94du 94eo
    951u 958o 962u 964o 981u 982o 984u 985o 98du 98fo 991u 993o 9a9u 9aao 9b1u 9b2o 9b3u 9b6o 9bau
    9bdo 9beu 9bfo 9c1u 9c7o 9c9u 9cbo 9cdu 9ceo 9cfu 9dco 9deu 9dfo 9e2u 9e6o 9feu a03o a04u a05o
    a0bu a0fo a11u a13o a29u a2ao a31u a32o a34u a35o a37u a38o a3au a3eo a41u a59o a5du a5eo a5fu
    a66o a70u a72o a75u a76o a77u a83o a84u a85o a8eu a8fo a92u a93o aa9u aaao ab1u ab2o ab4u ab5o
    abau abdo ac1u ac9o acau acbo acdu ad0o ad1u ae0o ae2u ae6o af2u af9o afau b02o b04u b05o b0du
    b0fo b11u b13o b29u b2ao b31u b32o b34u b35o b3au b3do b3eu b40o b41u b47o b49u b4bo b4du b5co
    b5eu b5fo b62u b66o b78u b83o b84u b85o b8bu b8eo b91u b92o b96u b99o b9bu b9co b9du b9eo ba0u
    ba3o ba5u ba8o babu baeo bbau bbfo bc0u bc1o bc3u bc6o bc9u bcao bcdu bd0o bd1u be6o bfbu c01o
    c04u c05o c0du c0eo c11u c12o c29u c2ao c3au c3do c3eu c41o c45u c58o c5bu c5co c5eu c60o c62u
    c66o c70u c77o c81u c82o c8du c8eo c91u c92o ca9u caao cb4u cb5o cbau cbdo cbfu cc1o cc2u cc3o
    cc5u cdco cdfu ce0o ce2u ce6o cf0u cf1o cf4u d02o d0du d0eo d11u d12o d3bu d3do d3eu d3fo d41u
    d46o d49u d4ao d4du d4eo d50u d54o d57u d58o d62u d66o d80u d82o d84u d85o d97u d9ao db2u db3o
    dbcu dbdo dbeu dc0o dc7u dd0o dd2u dd8o ddfu de6o df0u df2o df5u e01o e31u e32o e34u e3fo e47u
    e4fo e5cu e81o e83u e84o e85u e86o e8bu e8co ea4u ea5o ea6u ea7o eb1u eb2o eb4u ebdo ebeu ec0o
    ec5u ec6o ec7u ed0o edau edco ee0u f00o f18u f1ao f35u f36o f37u f38o f39u f3ao f48u f49o f6du
    f7fo f80u f85o f86u f88o f8du fbeo fc6u fc7o fcdu fceo fdbu 1000o 102du 1031o 1032u 1038o 1039u
    103bo 103du 103fo 1058u 105ao 105eu 1061o 1071u 1075o 1082u 1083o 1085u 1087o 108du 108eo 109du
    109eo 10c6u 10c7o 10c8u 10cdo 10ceu 10d0o 1249u 124ao 124eu 1250o 1257u 1258o 1259u 125ao 125eu
    1260o 1289u 128ao 128eu 1290o 12b1u 12b2o 12b6u 12b8o 12bfu 12c0o 12c1u 12c2o 12c6u 12c8o 12d7u
    12d8o 1311u 1312o 1316u 1318o 135bu 1360o 137du 1380o 139au 13a0o 13f6u 13f8o 13feu 1400o 1680u
    1681o 169du 16a0o 16f9u 1700o 1712u 171fo 1732u 1735o 1737u 1740o 1752u 1760o 176du 176eo 1771u
    1780o 17b4u 17b6o 17b7u 17beo 17c6u 17c7o 17c9u 17d4o 17ddu 17e0o 17eau 17f0o 17fau 1800o 180bu
    1810o 181au 1820o 1879u 1880o 1885u 1887o 18a9u 18aao 18abu 18b0o 18f6u 1900o 191fu 1923o 1927u
    1929o 192cu 1930o 1932u 1933o 1939u 1940o 1941u 1944o 196eu 1970o 1975u 1980o 19acu 19b0o 19cau
    19d0o 19dbu 19deo 1a17u 1a19o 1a1bu 1a1eo 1a56u 1a57o 1a58u 1a61o 1a62u 1a63o 1a65u 1a6do 1a73u
    1a80o 1a8au 1a90o 1a9au 1aa0o 1aaeu 1b04o 1b34u 1b3eo 1b42u 1b45o 1b4du 1b4eo 1b6bu 1b74o 1b80u
    1b82o 1ba2u 1ba6o 1ba8u 1baeo 1be6u 1be7o 1be8u 1beao 1bedu 1beeo 1befu 1bfco 1c2cu 1c34o 1c36u
    1c3bo 1c4au 1c4do 1c8bu 1c90o 1cbbu 1cbdo 1cc8u 1cd3o 1cd4u 1ce1o 1ce2u 1ce9o 1cedu 1ceeo 1cf4u
    1cf5o 1cf8u 1cfao 1cfbu 1d00o 1dc0u 1e00o 1f16u 1f18o 1f1eu 1f20o 1f46u 1f48o 1f4eu 1f50o 1f58u
    1f59o 1f5au 1f5bo 1f5cu 1f5do 1f5eu 1f5fo 1f7eu 1f80o 1fb5u 1fb6o 1fc5u 1fc6o 1fd4u 1fd6o 1fdcu
    1fddo 1ff0u 1ff2o 1ff5u 1ff6o 1fffu 2010o 2028u 2030o 205fu 2070o 2072u 2074o 208fu 2090o 209du
    20a0o 20c2u 2100o 218cu 2190o 242au 2440o 244bu 2460o 2b74u 2b76o 2cefu 2cf2o 2cf4u 2cf9o 2d26u
    2d27o 2d28u 2d2do 2d2eu 2d30o 2d68u 2d6fo 2d71u 2d80o 2d97u 2da0o 2da7u 2da8o 2dafu 2db0o 2db7u
    2db8o 2dbfu 2dc0o 2dc7u 2dc8o 2dcfu 2dd0o 2dd7u 2dd8o 2ddfu 2e00o 2e5eu 2e80o 2e9au 2e9bo 2ef4u
    2f00o 2fd6u 2ff0o 3000u 3001o 302au 3030o 3040u 3041o 3097u 309bo 3100u 3105o 3130u 3131o 318fu
    3190o 31e6u 31efo 321fu 3220o a48du a490o a4c7u a4d0o a62cu a640o a66fu a673o a674u a67eo a69eu
    a6a0o a6f0u a6f2o a6f8u a700o a7ddu a7f1o a802u a803o a806u a807o a80bu a80co a825u a827o a82cu
    a830o a83au a840o a878u a880o a8c4u a8ceo a8dau a8f2o a8ffu a900o a926u a92eo a947u a952o a953u
    a95fo a97du a983o a9b3u a9b4o a9b6u a9bao a9bcu a9beo a9c0u a9c1o a9ceu a9cfo a9dau a9deo a9e5u
    a9e6o a9ffu aa00o aa29u aa2fo aa31u aa33o aa35u aa40o aa43u aa44o aa4cu aa4do aa4eu aa50o aa5au
    aa5co aa7cu aa7do aab0u aab1o aab2u aab5o aab7u aab9o aabeu aac0o aac1u aac2o aac3u aadbo aaecu
    aaeeo aaf6u ab01o ab07u ab09o ab0fu ab11o ab17u ab20o ab27u ab28o ab2fu ab30o ab6cu ab70o abe5u
    abe6o abe8u abe9o abedu abf0o abfau ac00o d7a4u d7b0o d7c7u d7cbo d7fcu f900o fa6eu fa70o fadau
    fb00o fb07u fb13o fb18u fb1do fb1eu fb1fo fb37u fb38o fb3du fb3eo fb3fu fb40o fb42u fb43o fb45u
    fb46o fdd0u fdf0o fe00u fe10o fe1au fe30o fe53u fe54o fe67u fe68o fe6cu fe70o fe75u fe76o fefdu
    ff01o ff9eu ffa0o ffbfu ffc2o ffc8u ffcao ffd0u ffd2o ffd8u ffdao ffddu ffe0o ffe7u ffe8o ffefu
    fffco fffeu 10000o 1000cu 1000do 10027u 10028o 1003bu 1003co 1003eu 1003fo 1004eu 10050o 1005eu
    10080o 100fbu 10100o 10103u 10107o 10134u 10137o 1018fu 10190o 1019du 101a0o 101a1u 101d0o
    101fdu 10280o 1029du 102a0o 102d1u 102e1o 102fcu 10300o 10324u 1032do 1034bu 10350o 10376u
    10380o 1039eu 1039fo 103c4u 103c8o 103d6u 10400o 1049eu 104a0o 104aau 104b0o 104d4u 104d8o
    104fcu 10500o 10528u 10530o 10564u 1056fo 1057bu 1057co 1058bu 1058co 10593u 10594o 10596u
    10597o 105a2u 105a3o 105b2u 105b3o 105bau 105bbo 105bdu 105c0o 105f4u 10600o 10737u 10740o
    10756u 10760o 10768u 10780o 10786u 10787o 107b1u 107b2o 107bbu 10800o 10806u 10808o 10809u
    1080ao 10836u 10837o 10839u 1083co 1083du 1083fo 10856u 10857o 1089fu 108a7o 108b0u 108e0o
    108f3u 108f4o 108f6u 108fbo 1091cu 1091fo 1093au 1093fo 1095au 10980o 109b8u 109bco 109d0u
    109d2o 10a01u 10a10o 10a14u 10a15o 10a18u 10a19o 10a36u 10a40o 10a49u 10a50o 10a59u 10a60o
    10aa0u 10ac0o 10ae5u 10aebo 10af7u 10b00o 10b36u 10b39o 10b56u 10b58o 10b73u 10b78o 10b92u
    10b99o 10b9du 10ba9o 10bb0u 10c00o 10c49u 10c80o 10cb3u 10cc0o 10cf3u 10cfao 10d24u 10d30o
    10d3au 10d40o 10d66u 10d6eo 10d86u 10d8eo 10d90u 10e60o 10e7fu 10e80o 10eaau 10eado 10eaeu
    10eb0o 10eb2u 10ec2o 10ec8u 10ed0o 10ed9u 10f00o 10f28u 10f30o 10f46u 10f51o 10f5au 10f70o
    10f82u 10f86o 10f8au 10fb0o 10fccu 10fe0o 10ff7u 11000o 11001u 11002o 11038u 11047o 1104eu
    11052o 11070u 11071o 11073u 11075o 11076u 11082o 110b3u 110b7o 110b9u 110bbo 110bdu 110beo
    110c2u 110d0o 110e9u 110f0o 110fau 11103o 11127u 1112co 1112du 11136o 11148u 11150o 11173u
    11174o 11177u 11182o 111b6u 111bfo 111c0u 111c1o 111c9u 111cdo 111cfu 111d0o 111e0u 111e1o
    111f5u 11200o 11212u 11213o 1122fu 11232o 11234u 11238o 1123eu 1123fo 11241u 11280o 11287u
    11288o 11289u 1128ao 1128eu 1128fo 1129eu 1129fo 112aau 112b0o 112dfu 112e0o 112e3u 112f0o
    112fau 11302o 11304u 11305o 1130du 1130fo 11311u 11313o 11329u 1132ao 11331u 11332o 11334u
    11335o 1133au 1133do 1133eu 1133fo 11340u 11341o 11345u 11347o 11349u 1134bo 1134du 11350o
    11351u 1135do 11364u 11380o 1138au 1138bo 1138cu 1138eo 1138fu 11390o 113b6u 113b7o 113b8u
    113b9o 113bbu 113cao 113cbu 113cco 113ceu 113d1o 113d2u 113d3o 113d6u 113d7o 113d9u 11400o
    11438u 11440o 11442u 11445o 11446u 11447o 1145cu 1145do 1145eu 1145fo 11462u 11480o 114b0u
    114b1o 114b3u 114b9o 114bau 114bbo 114bdu 114beo 114bfu 114c1o 114c2u 114c4o 114c8u 114d0o
    114dau 11580o 115afu 115b0o 115b2u 115b8o 115bcu 115beo 115bfu 115c1o 115dcu 11600o 11633u
    1163bo 1163du 1163eo 1163fu 11641o 11645u 11650o 1165au 11660o 1166du 11680o 116abu 116aco
    116adu 116aeo 116b0u 116b8o 116bau 116c0o 116cau 116d0o 116e4u 11700o 1171bu 1171eo 1171fu
    11720o 11722u 11726o 11727u 11730o 11747u 11800o 1182fu 11838o 11839u 1183bo 1183cu 118a0o
    118f3u 118ffo 11907u 11909o 1190au 1190co 11914u 11915o 11917u 11918o 11930u 11931o 11936u
    11937o 11939u 1193fo 11943u 11944o 11947u 11950o 1195au 119a0o 119a8u 119aao 119d4u 119dco
    119e0u 119e1o 119e5u 11a00o 11a01u 11a0bo 11a33u 11a39o 11a3bu 11a3fo 11a47u 11a50o 11a51u
    11a57o 11a59u 11a5co 11a8au 11a97o 11a98u 11a9ao 11aa3u 11ab0o 11af9u 11b00o 11b0au 11b61o
    11b62u 11b65o 11b66u 11b67o 11b68u 11bc0o 11be2u 11bf0o 11bfau 11c00o 11c09u 11c0ao 11c30u
    11c3eo 11c3fu 11c40o 11c46u 11c50o 11c6du 11c70o 11c90u 11ca9o 11caau 11cb1o 11cb2u 11cb4o
    11cb5u 11d00o 11d07u 11d08o 11d0au 11d0bo 11d31u 11d46o 11d47u 11d50o 11d5au 11d60o 11d66u
    11d67o 11d69u 11d6ao 11d8fu 11d93o 11d95u 11d96o 11d97u 11d98o 11d99u 11da0o 11daau 11db0o
    11ddcu 11de0o 11deau 11ee0o 11ef3u 11ef5o 11ef9u 11f02o 11f11u 11f12o 11f36u 11f3eo 11f40u
    11f43o 11f5au 11fb0o 11fb1u 11fc0o 11ff2u 11fffo 1239au 12400o 1246fu 12470o 12475u 12480o
    12544u 12f90o 12ff3u 13000o 13430u 13441o 13447u 13460o 143fbu 14400o 14647u 16100o 1611eu
    1612ao 1612du 16130o 1613au 16800o 16a39u 16a40o 16a5fu 16a60o 16a6au 16a6eo 16abfu 16ac0o
    16acau 16ad0o 16aeeu 16af5o 16af6u 16b00o 16b30u 16b37o 16b46u 16b50o 16b5au 16b5bo 16b62u
    16b63o 16b78u 16b7do 16b90u 16d40o 16d7au 16e40o 16e9bu 16ea0o 16eb9u 16ebbo 16ed4u 16f00o
    16f4bu 16f50o 16f88u 16f93o 16fa0u 16fe0o 16fe4u 16ff2o 16ff7u 17000o 18cd6u 18cffo 18d1fu
    18d80o 18df3u 1aff0o 1aff4u 1aff5o 1affcu 1affdo 1afffu 1b000o 1b123u 1b132o 1b133u 1b150o
    1b153u 1b155o 1b156u 1b164o 1b168u 1b170o 1b2fcu 1bc00o 1bc6bu 1bc70o 1bc7du 1bc80o 1bc89u
    1bc90o 1bc9au 1bc9co 1bc9du 1bc9fo 1bca0u 1cc00o 1ccfdu 1cd00o 1ceb4u 1cebao 1ced1u 1cee0o
    1cef1u 1cf50o 1cfc4u 1d000o 1d0f6u 1d100o 1d127u 1d129o 1d165u 1d16ao 1d16du 1d183o 1d185u
    1d18co 1d1aau 1d1aeo 1d1ebu 1d200o 1d242u 1d245o 1d246u 1d2c0o 1d2d4u 1d2e0o 1d2f4u 1d300o
    1d357u 1d360o 1d379u 1d400o 1d455u 1d456o 1d49du 1d49eo 1d4a0u 1d4a2o 1d4a3u 1d4a5o 1d4a7u
    1d4a9o 1d4adu 1d4aeo 1d4bau 1d4bbo 1d4bcu 1d4bdo 1d4c4u 1d4c5o 1d506u 1d507o 1d50bu 1d50do
    1d515u 1d516o 1d51du 1d51eo 1d53au 1d53bo 1d53fu 1d540o 1d545u 1d546o 1d547u 1d54ao 1d551u
    1d552o 1d6a6u 1d6a8o 1d7ccu 1d7ceo 1da00u 1da37o 1da3bu 1da6do 1da75u 1da76o 1da84u 1da85o
    1da8cu 1df00o 1df1fu 1df25o 1df2bu 1e030o 1e06eu 1e100o 1e12du 1e137o 1e13eu 1e140o 1e14au
    1e14eo 1e150u 1e290o 1e2aeu 1e2c0o 1e2ecu 1e2f0o 1e2fau 1e2ffo 1e300u 1e4d0o 1e4ecu 1e4f0o
    1e4fau 1e5d0o 1e5eeu 1e5f0o 1e5fbu 1e5ffo 1e600u 1e6c0o 1e6dfu 1e6e0o 1e6e3u 1e6e4o 1e6e6u
    1e6e7o 1e6eeu 1e6f0o 1e6f5u 1e6feo 1e700u 1e7e0o 1e7e7u 1e7e8o 1e7ecu 1e7edo 1e7efu 1e7f0o
    1e7ffu 1e800o 1e8c5u 1e8c7o 1e8d0u 1e900o 1e944u 1e94bo 1e94cu 1e950o 1e95au 1e95eo 1e960u
    1ec71o 1ecb5u 1ed01o 1ed3eu 1ee00o 1ee04u 1ee05o 1ee20u 1ee21o 1ee23u 1ee24o 1ee25u 1ee27o
    1ee28u 1ee29o 1ee33u 1ee34o 1ee38u 1ee39o 1ee3au 1ee3bo 1ee3cu 1ee42o 1ee43u 1ee47o 1ee48u
    1ee49o 1ee4au 1ee4bo 1ee4cu 1ee4do 1ee50u 1ee51o 1ee53u 1ee54o 1ee55u 1ee57o 1ee58u 1ee59o
    1ee5au 1ee5bo 1ee5cu 1ee5do 1ee5eu 1ee5fo 1ee60u 1ee61o 1ee63u 1ee64o 1ee65u 1ee67o 1ee6bu
    1ee6co 1ee73u 1ee74o 1ee78u 1ee79o 1ee7du 1ee7eo 1ee7fu 1ee80o 1ee8au 1ee8bo 1ee9cu 1eea1o
    1eea4u 1eea5o 1eeaau 1eeabo 1eebcu 1eef0o 1eef2u 1f000o 1f02cu 1f030o 1f094u 1f0a0o 1f0afu
    1f0b1o 1f0c0u 1f0c1o 1f0d0u 1f0d1o 1f0f6u 1f100o 1f1aeu 1f1e6o 1f203u 1f210o 1f23cu 1f240o
    1f249u 1f250o 1f252u 1f260o 1f266u 1f300o 1f6d9u 1f6dco 1f6edu 1f6f0o 1f6fdu 1f700o 1f7dau
    1f7e0o 1f7ecu 1f7f0o 1f7f1u 1f800o 1f80cu 1f810o 1f848u 1f850o 1f85au 1f860o 1f888u 1f890o
    1f8aeu 1f8b0o 1f8bcu 1f8c0o 1f8c2u 1f8d0o 1f8d9u 1f900o 1fa58u 1fa60o 1fa6eu 1fa70o 1fa7du
    1fa80o 1fa8bu 1fa8eo 1fac7u 1fac8o 1fac9u 1facdo 1faddu 1fadfo 1faebu 1faefo 1faf9u 1fb00o
    1fb93u 1fb94o 1fbfbu 20000o 2a6e0u 2a700o 2b81eu 2b820o 2ceaeu 2ceb0o 2ebe1u 2ebf0o 2ee5eu
    2f800o 2fa1eu 30000o 3134bu 31350o 3347au"

/-- The character cannot be seen by itself. -/
def isUnseen (c : Char) : Bool :=
  if c.toNat < 0x7F then c.toNat < 0x20 else unseenTable.valueAt false c

end LootLedger.Text
