import LootLedger.Text.Runs

/-!
# Letters and digits

The characters that words and numbers of any script are made of: those with the Unicode property
`Alphabetic` and those of the general category `Number`.

## Main definitions

* `Text.isAlphanumeric`
-/

namespace LootLedger.Text

/-- Where letters and digits begin (`l`) and where other characters do (`o`). -/
def alphanumericTable : Runs Bool :=
  Runs.ofText (· == ['l'])
    "aal abo b2l b4o b5l b6o b9l bbo bcl bfo c0l d7o d8l f7o f8l 2c2o 2c6l 2d2o 2e0l 2e5o 2ecl 2edo
    2eel 2efo 345l 346o 363l 375o 376l 378o 37al 37eo 37fl 380o 386l 387o 388l 38bo 38cl 38do 38el
    3a2o 3a3l 3f6o 3f7l 482o 48al 530o 531l 557o 559l 55ao 560l 589o 5b0l 5beo 5bfl 5c0o 5c1l 5c3o
    5c4l 5c6o 5c7l 5c8o 5d0l 5ebo 5efl 5f3o 610l 61bo 620l 658o 659l 66ao 66el 6d4o 6d5l 6ddo 6e1l
    6e9o 6edl 6fdo 6ffl 700o 710l 740o 74dl 7b2o 7c0l 7ebo 7f4l 7f6o 7fal 7fbo 800l 818o 81al 82do
    840l 859o 860l 86bo 870l 888o 889l 890o 897l 898o 8a0l 8cao 8d4l 8e0o 8e3l 8eao 8f0l 93co 93dl
    94do 94el 951o 955l 964o 966l 970o 971l 984o 985l 98do 98fl 991o 993l 9a9o 9aal 9b1o 9b2l 9b3o
    9b6l 9bao 9bdl 9c5o 9c7l 9c9o 9cbl 9cdo 9cel 9cfo 9d7l 9d8o 9dcl 9deo 9dfl 9e4o 9e6l 9f2o 9f4l
    9fao 9fcl 9fdo a01l a04o a05l a0bo a0fl a11o a13l a29o a2al a31o a32l a34o a35l a37o a38l a3ao
    a3el a43o a47l a49o a4bl a4do a51l a52o a59l a5do a5el a5fo a66l a76o a81l a84o a85l a8eo a8fl
    a92o a93l aa9o aaal ab1o ab2l ab4o ab5l abao abdl ac6o ac7l acao acbl acdo ad0l ad1o ae0l ae4o
    ae6l af0o af9l afdo b01l b04o b05l b0do b0fl b11o b13l b29o b2al b31o b32l b34o b35l b3ao b3dl
    b45o b47l b49o b4bl b4do b56l b58o b5cl b5eo b5fl b64o b66l b70o b71l b78o b82l b84o b85l b8bo
    b8el b91o b92l b96o b99l b9bo b9cl b9do b9el ba0o ba3l ba5o ba8l babo bael bbao bbel bc3o bc6l
    bc9o bcal bcdo bd0l bd1o bd7l bd8o be6l bf3o c00l c0do c0el c11o c12l c29o c2al c3ao c3dl c45o
    c46l c49o c4al c4do c55l c57o c58l c5bo c5cl c5eo c60l c64o c66l c70o c78l c7fo c80l c84o c85l
    c8do c8el c91o c92l ca9o caal cb4o cb5l cbao cbdl cc5o cc6l cc9o ccal ccdo cd5l cd7o cdcl cdfo
    ce0l ce4o ce6l cf0o cf1l cf4o d00l d0do d0el d11o d12l d3bo d3dl d45o d46l d49o d4al d4do d4el
    d4fo d54l d64o d66l d79o d7al d80o d81l d84o d85l d97o d9al db2o db3l dbco dbdl dbeo dc0l dc7o
    dcfl dd5o dd6l dd7o dd8l de0o de6l df0o df2l df4o e01l e3bo e40l e47o e4dl e4eo e50l e5ao e81l
    e83o e84l e85o e86l e8bo e8cl ea4o ea5l ea6o ea7l ebao ebbl ebeo ec0l ec5o ec6l ec7o ecdl eceo
    ed0l edao edcl ee0o f00l f01o f20l f34o f40l f48o f49l f6do f71l f84o f88l f98o f99l fbdo 1000l
    1037o 1038l 1039o 103bl 104ao 1050l 109eo 10a0l 10c6o 10c7l 10c8o 10cdl 10ceo 10d0l 10fbo 10fcl
    1249o 124al 124eo 1250l 1257o 1258l 1259o 125al 125eo 1260l 1289o 128al 128eo 1290l 12b1o 12b2l
    12b6o 12b8l 12bfo 12c0l 12c1o 12c2l 12c6o 12c8l 12d7o 12d8l 1311o 1312l 1316o 1318l 135bo 1369l
    137do 1380l 1390o 13a0l 13f6o 13f8l 13feo 1401l 166do 166fl 1680o 1681l 169bo 16a0l 16ebo 16eel
    16f9o 1700l 1714o 171fl 1734o 1740l 1754o 1760l 176do 176el 1771o 1772l 1774o 1780l 17b4o 17b6l
    17c9o 17d7l 17d8o 17dcl 17ddo 17e0l 17eao 17f0l 17fao 1810l 181ao 1820l 1879o 1880l 18abo 18b0l
    18f6o 1900l 191fo 1920l 192co 1930l 1939o 1946l 196eo 1970l 1975o 1980l 19aco 19b0l 19cao 19d0l
    19dbo 1a00l 1a1co 1a20l 1a5fo 1a61l 1a75o 1a80l 1a8ao 1a90l 1a9ao 1aa7l 1aa8o 1abfl 1ac1o 1accl
    1acfo 1b00l 1b34o 1b35l 1b44o 1b45l 1b4do 1b50l 1b5ao 1b80l 1baao 1bacl 1be6o 1be7l 1bf2o 1c00l
    1c37o 1c40l 1c4ao 1c4dl 1c7eo 1c80l 1c8bo 1c90l 1cbbo 1cbdl 1cc0o 1ce9l 1cedo 1ceel 1cf4o 1cf5l
    1cf7o 1cfal 1cfbo 1d00l 1dc0o 1dd3l 1df5o 1e00l 1f16o 1f18l 1f1eo 1f20l 1f46o 1f48l 1f4eo 1f50l
    1f58o 1f59l 1f5ao 1f5bl 1f5co 1f5dl 1f5eo 1f5fl 1f7eo 1f80l 1fb5o 1fb6l 1fbdo 1fbel 1fbfo 1fc2l
    1fc5o 1fc6l 1fcdo 1fd0l 1fd4o 1fd6l 1fdco 1fe0l 1fedo 1ff2l 1ff5o 1ff6l 1ffdo 2070l 2072o 2074l
    207ao 207fl 208ao 2090l 209do 2102l 2103o 2107l 2108o 210al 2114o 2115l 2116o 2119l 211eo 2124l
    2125o 2126l 2127o 2128l 2129o 212al 212eo 212fl 213ao 213cl 2140o 2145l 214ao 214el 214fo 2150l
    218ao 2460l 249co 24b6l 2500o 2776l 2794o 2c00l 2ce5o 2cebl 2cefo 2cf2l 2cf4o 2cfdl 2cfeo 2d00l
    2d26o 2d27l 2d28o 2d2dl 2d2eo 2d30l 2d68o 2d6fl 2d70o 2d80l 2d97o 2da0l 2da7o 2da8l 2dafo 2db0l
    2db7o 2db8l 2dbfo 2dc0l 2dc7o 2dc8l 2dcfo 2dd0l 2dd7o 2dd8l 2ddfo 2de0l 2e00o 2e2fl 2e30o 3005l
    3008o 3021l 302ao 3031l 3036o 3038l 303do 3041l 3097o 309dl 30a0o 30a1l 30fbo 30fcl 3100o 3105l
    3130o 3131l 318fo 3192l 3196o 31a0l 31c0o 31f0l 3200o 3220l 322ao 3248l 3250o 3251l 3260o 3280l
    328ao 32b1l 32c0o 3400l 4dc0o 4e00l a48do a4d0l a4feo a500l a60do a610l a62co a640l a66fo a674l
    a67co a67fl a6f0o a717l a720o a722l a789o a78bl a7ddo a7f1l a806o a807l a828o a830l a836o a840l
    a874o a880l a8c4o a8c5l a8c6o a8d0l a8dao a8f2l a8f8o a8fbl a8fco a8fdl a92bo a930l a953o a960l
    a97do a980l a9b3o a9b4l a9c0o a9cfl a9dao a9e0l a9ffo aa00l aa37o aa40l aa4eo aa50l aa5ao aa60l
    aa77o aa7al aabfo aac0l aac1o aac2l aac3o aadbl aadeo aae0l aaf0o aaf2l aaf6o ab01l ab07o ab09l
    ab0fo ab11l ab17o ab20l ab27o ab28l ab2fo ab30l ab5bo ab5cl ab6ao ab70l abebo abf0l abfao ac00l
    d7a4o d7b0l d7c7o d7cbl d7fco f900l fa6eo fa70l fadao fb00l fb07o fb13l fb18o fb1dl fb29o fb2al
    fb37o fb38l fb3do fb3el fb3fo fb40l fb42o fb43l fb45o fb46l fbb2o fbd3l fd3eo fd50l fd90o fd92l
    fdc8o fdf0l fdfco fe70l fe75o fe76l fefdo ff10l ff1ao ff21l ff3bo ff41l ff5bo ff66l ffbfo ffc2l
    ffc8o ffcal ffd0o ffd2l ffd8o ffdal ffddo 10000l 1000co 1000dl 10027o 10028l 1003bo 1003cl
    1003eo 1003fl 1004eo 10050l 1005eo 10080l 100fbo 10107l 10134o 10140l 10179o 1018al 1018co
    10280l 1029do 102a0l 102d1o 102e1l 102fco 10300l 10324o 1032dl 1034bo 10350l 1037bo 10380l
    1039eo 103a0l 103c4o 103c8l 103d0o 103d1l 103d6o 10400l 1049eo 104a0l 104aao 104b0l 104d4o
    104d8l 104fco 10500l 10528o 10530l 10564o 10570l 1057bo 1057cl 1058bo 1058cl 10593o 10594l
    10596o 10597l 105a2o 105a3l 105b2o 105b3l 105bao 105bbl 105bdo 105c0l 105f4o 10600l 10737o
    10740l 10756o 10760l 10768o 10780l 10786o 10787l 107b1o 107b2l 107bbo 10800l 10806o 10808l
    10809o 1080al 10836o 10837l 10839o 1083cl 1083do 1083fl 10856o 10858l 10877o 10879l 1089fo
    108a7l 108b0o 108e0l 108f3o 108f4l 108f6o 108fbl 1091co 10920l 1093ao 10940l 1095ao 10980l
    109b8o 109bcl 109d0o 109d2l 10a04o 10a05l 10a07o 10a0cl 10a14o 10a15l 10a18o 10a19l 10a36o
    10a40l 10a49o 10a60l 10a7fo 10a80l 10aa0o 10ac0l 10ac8o 10ac9l 10ae5o 10aebl 10af0o 10b00l
    10b36o 10b40l 10b56o 10b58l 10b73o 10b78l 10b92o 10ba9l 10bb0o 10c00l 10c49o 10c80l 10cb3o
    10cc0l 10cf3o 10cfal 10d28o 10d30l 10d3ao 10d40l 10d66o 10d69l 10d6ao 10d6fl 10d86o 10e60l
    10e7fo 10e80l 10eaao 10eabl 10eado 10eb0l 10eb2o 10ec2l 10ec8o 10efal 10efdo 10f00l 10f28o
    10f30l 10f46o 10f51l 10f55o 10f70l 10f82o 10fb0l 10fcco 10fe0l 10ff7o 11000l 11046o 11052l
    11070o 11071l 11076o 11080l 110b9o 110c2l 110c3o 110d0l 110e9o 110f0l 110fao 11100l 11133o
    11136l 11140o 11144l 11148o 11150l 11173o 11176l 11177o 11180l 111c0o 111c1l 111c5o 111cel
    111dbo 111dcl 111ddo 111e1l 111f5o 11200l 11212o 11213l 11235o 11237l 11238o 1123el 11242o
    11280l 11287o 11288l 11289o 1128al 1128eo 1128fl 1129eo 1129fl 112a9o 112b0l 112e9o 112f0l
    112fao 11300l 11304o 11305l 1130do 1130fl 11311o 11313l 11329o 1132al 11331o 11332l 11334o
    11335l 1133ao 1133dl 11345o 11347l 11349o 1134bl 1134do 11350l 11351o 11357l 11358o 1135dl
    11364o 11380l 1138ao 1138bl 1138co 1138el 1138fo 11390l 113b6o 113b7l 113c1o 113c2l 113c3o
    113c5l 113c6o 113c7l 113cbo 113ccl 113ceo 113d1l 113d2o 113d3l 113d4o 11400l 11442o 11443l
    11446o 11447l 1144bo 11450l 1145ao 1145fl 11462o 11480l 114c2o 114c4l 114c6o 114c7l 114c8o
    114d0l 114dao 11580l 115b6o 115b8l 115bfo 115d8l 115deo 11600l 1163fo 11640l 11641o 11644l
    11645o 11650l 1165ao 11680l 116b6o 116b8l 116b9o 116c0l 116cao 116d0l 116e4o 11700l 1171bo
    1171dl 1172bo 11730l 1173co 11740l 11747o 11800l 11839o 118a0l 118f3o 118ffl 11907o 11909l
    1190ao 1190cl 11914o 11915l 11917o 11918l 11936o 11937l 11939o 1193bl 1193do 1193fl 11943o
    11950l 1195ao 119a0l 119a8o 119aal 119d8o 119dal 119e0o 119e1l 119e2o 119e3l 119e5o 11a00l
    11a33o 11a35l 11a3fo 11a50l 11a98o 11a9dl 11a9eo 11ab0l 11af9o 11b60l 11b68o 11bc0l 11be1o
    11bf0l 11bfao 11c00l 11c09o 11c0al 11c37o 11c38l 11c3fo 11c40l 11c41o 11c50l 11c6do 11c72l
    11c90o 11c92l 11ca8o 11ca9l 11cb7o 11d00l 11d07o 11d08l 11d0ao 11d0bl 11d37o 11d3al 11d3bo
    11d3cl 11d3eo 11d3fl 11d42o 11d43l 11d44o 11d46l 11d48o 11d50l 11d5ao 11d60l 11d66o 11d67l
    11d69o 11d6al 11d8fo 11d90l 11d92o 11d93l 11d97o 11d98l 11d99o 11da0l 11daao 11db0l 11ddco
    11de0l 11deao 11ee0l 11ef7o 11f00l 11f11o 11f12l 11f3bo 11f3el 11f41o 11f50l 11f5ao 11fb0l
    11fb1o 11fc0l 11fd5o 12000l 1239ao 12400l 1246fo 12480l 12544o 12f90l 12ff1o 13000l 13430o
    13441l 13447o 13460l 143fbo 14400l 14647o 16100l 1612fo 16130l 1613ao 16800l 16a39o 16a40l
    16a5fo 16a60l 16a6ao 16a70l 16abfo 16ac0l 16acao 16ad0l 16aeeo 16b00l 16b30o 16b40l 16b44o
    16b50l 16b5ao 16b5bl 16b62o 16b63l 16b78o 16b7dl 16b90o 16d40l 16d6do 16d70l 16d7ao 16e40l
    16e97o 16ea0l 16eb9o 16ebbl 16ed4o 16f00l 16f4bo 16f4fl 16f88o 16f8fl 16fa0o 16fe0l 16fe2o
    16fe3l 16fe4o 16ff0l 16ff7o 17000l 18cd6o 18cffl 18d1fo 18d80l 18df3o 1aff0l 1aff4o 1aff5l
    1affco 1affdl 1afffo 1b000l 1b123o 1b132l 1b133o 1b150l 1b153o 1b155l 1b156o 1b164l 1b168o
    1b170l 1b2fco 1bc00l 1bc6bo 1bc70l 1bc7do 1bc80l 1bc89o 1bc90l 1bc9ao 1bc9el 1bc9fo 1ccf0l
    1ccfao 1d2c0l 1d2d4o 1d2e0l 1d2f4o 1d360l 1d379o 1d400l 1d455o 1d456l 1d49do 1d49el 1d4a0o
    1d4a2l 1d4a3o 1d4a5l 1d4a7o 1d4a9l 1d4ado 1d4ael 1d4bao 1d4bbl 1d4bco 1d4bdl 1d4c4o 1d4c5l
    1d506o 1d507l 1d50bo 1d50dl 1d515o 1d516l 1d51do 1d51el 1d53ao 1d53bl 1d53fo 1d540l 1d545o
    1d546l 1d547o 1d54al 1d551o 1d552l 1d6a6o 1d6a8l 1d6c1o 1d6c2l 1d6dbo 1d6dcl 1d6fbo 1d6fcl
    1d715o 1d716l 1d735o 1d736l 1d74fo 1d750l 1d76fo 1d770l 1d789o 1d78al 1d7a9o 1d7aal 1d7c3o
    1d7c4l 1d7cco 1d7cel 1d800o 1df00l 1df1fo 1df25l 1df2bo 1e000l 1e007o 1e008l 1e019o 1e01bl
    1e022o 1e023l 1e025o 1e026l 1e02bo 1e030l 1e06eo 1e08fl 1e090o 1e100l 1e12do 1e137l 1e13eo
    1e140l 1e14ao 1e14el 1e14fo 1e290l 1e2aeo 1e2c0l 1e2eco 1e2f0l 1e2fao 1e4d0l 1e4eco 1e4f0l
    1e4fao 1e5d0l 1e5eeo 1e5f0l 1e5fbo 1e6c0l 1e6dfo 1e6e0l 1e6f6o 1e6fel 1e700o 1e7e0l 1e7e7o
    1e7e8l 1e7eco 1e7edl 1e7efo 1e7f0l 1e7ffo 1e800l 1e8c5o 1e8c7l 1e8d0o 1e900l 1e944o 1e947l
    1e948o 1e94bl 1e94co 1e950l 1e95ao 1ec71l 1ecaco 1ecadl 1ecb0o 1ecb1l 1ecb5o 1ed01l 1ed2eo
    1ed2fl 1ed3eo 1ee00l 1ee04o 1ee05l 1ee20o 1ee21l 1ee23o 1ee24l 1ee25o 1ee27l 1ee28o 1ee29l
    1ee33o 1ee34l 1ee38o 1ee39l 1ee3ao 1ee3bl 1ee3co 1ee42l 1ee43o 1ee47l 1ee48o 1ee49l 1ee4ao
    1ee4bl 1ee4co 1ee4dl 1ee50o 1ee51l 1ee53o 1ee54l 1ee55o 1ee57l 1ee58o 1ee59l 1ee5ao 1ee5bl
    1ee5co 1ee5dl 1ee5eo 1ee5fl 1ee60o 1ee61l 1ee63o 1ee64l 1ee65o 1ee67l 1ee6bo 1ee6cl 1ee73o
    1ee74l 1ee78o 1ee79l 1ee7do 1ee7el 1ee7fo 1ee80l 1ee8ao 1ee8bl 1ee9co 1eea1l 1eea4o 1eea5l
    1eeaao 1eeabl 1eebco 1f100l 1f10do 1f130l 1f14ao 1f150l 1f16ao 1f170l 1f18ao 1fbf0l 1fbfao
    20000l 2a6e0o 2a700l 2b81eo 2b820l 2ceaeo 2ceb0l 2ebe1o 2ebf0l 2ee5eo 2f800l 2fa1eo 30000l
    3134bo 31350l 3347ao"

/-- The character is a letter or a digit. -/
def isAlphanumeric (c : Char) : Bool :=
  if c.toNat < 0x80 then c.isAlphanum else alphanumericTable.valueAt false c

end LootLedger.Text
