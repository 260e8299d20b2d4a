import LootLedger.Text.Runs

/-!
# Marks

Characters that are written on, around or under the one before them: accents, vowel signs,
enclosing circles. The set is the Unicode general category `Mark`.

## Main definitions

* `Text.isMark`
-/

namespace LootLedger.Text

/-- Where marks begin (`m`) and where other characters do (`o`). -/
def markTable : Runs Bool :=
  Runs.ofText (· == ['m'])
    "300m 370o 483m 48ao 591m 5beo 5bfm 5c0o 5c1m 5c3o 5c4m 5c6o 5c7m 5c8o 610m 61bo 64bm 660o 670m
    671o 6d6m 6ddo 6dfm 6e5o 6e7m 6e9o 6eam 6eeo 711m 712o 730m 74bo 7a6m 7b1o 7ebm 7f4o 7fdm 7feo
    816m 81ao 81bm 824o 825m 828o 829m 82eo 859m 85co 897m 8a0o 8cam 8e2o 8e3m 904o 93am 93do 93em
    950o 951m 958o 962m 964o 981m 984o 9bcm 9bdo 9bem 9c5o 9c7m 9c9o 9cbm 9ceo 9d7m 9d8o 9e2m 9e4o
    9fem 9ffo a01m a04o a3cm a3do a3em a43o a47m a49o a4bm a4eo a51m a52o a70m a72o a75m a76o a81m
    a84o abcm abdo abem ac6o ac7m acao acbm aceo ae2m ae4o afam b00o b01m b04o b3cm b3do b3em b45o
    b47m b49o b4bm b4eo b55m b58o b62m b64o b82m b83o bbem bc3o bc6m bc9o bcam bceo bd7m bd8o c00m
    c05o c3cm c3do c3em c45o c46m c49o c4am c4eo c55m c57o c62m c64o c81m c84o cbcm cbdo cbem cc5o
    cc6m cc9o ccam cceo cd5m cd7o ce2m ce4o cf3m cf4o d00m d04o d3bm d3do d3em d45o d46m d49o d4am
    d4eo d57m d58o d62m d64o d81m d84o dcam dcbo dcfm dd5o dd6m dd7o dd8m de0o df2m df4o e31m e32o
    e34m e3bo e47m e4fo eb1m eb2o eb4m ebdo ec8m ecfo f18m f1ao f35m f36o f37m f38o f39m f3ao f3em
    f40o f71m f85o f86m f88o f8dm f98o f99m fbdo fc6m fc7o 102bm 103fo 1056m 105ao 105em 1061o
    1062m 1065o 1067m 106eo 1071m 1075o 1082m 108eo 108fm 1090o 109am 109eo 135dm 1360o 1712m 1716o
    1732m 1735o 1752m 1754o 1772m 1774o 17b4m 17d4o 17ddm 17deo 180bm 180eo 180fm 1810o 1885m 1887o
    18a9m 18aao 1920m 192co 1930m 193co 1a17m 1a1co 1a55m 1a5fo 1a60m 1a7do 1a7fm 1a80o 1ab0m 1adeo
    1ae0m 1aeco 1b00m 1b05o 1b34m 1b45o 1b6bm 1b74o 1b80m 1b83o 1ba1m 1baeo 1be6m 1bf4o 1c24m 1c38o
    1cd0m 1cd3o 1cd4m 1ce9o 1cedm 1ceeo 1cf4m 1cf5o 1cf7m 1cfao 1dc0m 1e00o 20d0m 20f1o 2cefm 2cf2o
    2d7fm 2d80o 2de0m 2e00o 302am 3030o 3099m 309bo a66fm a673o a674m a67eo a69em a6a0o a6f0m a6f2o
    a802m a803o a806m a807o a80bm a80co a823m a828o a82cm a82do a880m a882o a8b4m a8c6o a8e0m a8f2o
    a8ffm a900o a926m a92eo a947m a954o a980m a984o a9b3m a9c1o a9e5m a9e6o aa29m aa37o aa43m aa44o
    aa4cm aa4eo aa7bm aa7eo aab0m aab1o aab2m aab5o aab7m aab9o aabem aac0o aac1m aac2o aaebm aaf0o
    aaf5m aaf7o abe3m abebo abecm abeeo fb1em fb1fo fe00m fe10o fe20m fe30o 101fdm 101feo 102e0m
    102e1o 10376m 1037bo 10a01m 10a04o 10a05m 10a07o 10a0cm 10a10o 10a38m 10a3bo 10a3fm 10a40o
    10ae5m 10ae7o 10d24m 10d28o 10d69m 10d6eo 10eabm 10eado 10efam 10f00o 10f46m 10f51o 10f82m
    10f86o 11000m 11003o 11038m 11047o 11070m 11071o 11073m 11075o 1107fm 11083o 110b0m 110bbo
    110c2m 110c3o 11100m 11103o 11127m 11135o 11145m 11147o 11173m 11174o 11180m 11183o 111b3m
    111c1o 111c9m 111cdo 111cem 111d0o 1122cm 11238o 1123em 1123fo 11241m 11242o 112dfm 112ebo
    11300m 11304o 1133bm 1133do 1133em 11345o 11347m 11349o 1134bm 1134eo 11357m 11358o 11362m
    11364o 11366m 1136do 11370m 11375o 113b8m 113c1o 113c2m 113c3o 113c5m 113c6o 113c7m 113cbo
    113ccm 113d1o 113d2m 113d3o 113e1m 113e3o 11435m 11447o 1145em 1145fo 114b0m 114c4o 115afm
    115b6o 115b8m 115c1o 115dcm 115deo 11630m 11641o 116abm 116b8o 1171dm 1172co 1182cm 1183bo
    11930m 11936o 11937m 11939o 1193bm 1193fo 11940m 11941o 11942m 11944o 119d1m 119d8o 119dam
    119e1o 119e4m 119e5o 11a01m 11a0bo 11a33m 11a3ao 11a3bm 11a3fo 11a47m 11a48o 11a51m 11a5co
    11a8am 11a9ao 11b60m 11b68o 11c2fm 11c37o 11c38m 11c40o 11c92m 11ca8o 11ca9m 11cb7o 11d31m
    11d37o 11d3am 11d3bo 11d3cm 11d3eo 11d3fm 11d46o 11d47m 11d48o 11d8am 11d8fo 11d90m 11d92o
    11d93m 11d98o 11ef3m 11ef7o 11f00m 11f02o 11f03m 11f04o 11f34m 11f3bo 11f3em 11f43o 11f5am
    11f5bo 13440m 13441o 13447m 13456o 1611em 16130o 16af0m 16af5o 16b30m 16b37o 16f4fm 16f50o
    16f51m 16f88o 16f8fm 16f93o 16fe4m 16fe5o 16ff0m 16ff2o 1bc9dm 1bc9fo 1cf00m 1cf2eo 1cf30m
    1cf47o 1d165m 1d16ao 1d16dm 1d173o 1d17bm 1d183o 1d185m 1d18co 1d1aam 1d1aeo 1d242m 1d245o
    1da00m 1da37o 1da3bm 1da6do 1da75m 1da76o 1da84m 1da85o 1da9bm 1daa0o 1daa1m 1dab0o 1e000m
    1e007o 1e008m 1e019o 1e01bm 1e022o 1e023m 1e025o 1e026m 1e02bo 1e08fm 1e090o 1e130m 1e137o
    1e2aem 1e2afo 1e2ecm 1e2f0o 1e4ecm 1e4f0o 1e5eem 1e5f0o 1e6e3m 1e6e4o 1e6e6m 1e6e7o 1e6eem
    1e6f0o 1e6f5m 1e6f6o 1e8d0m 1e8d7o 1e944m 1e94bo e0100m e01f0o"

/-- The character is a mark. -/
def isMark (c : Char) : Bool :=
  markTable.valueAt false c

end LootLedger.Text
