/- How characters beyond seven bits are folded in the names of hosts: letters to lower case, and forms of
letters, digits and marks to the plain ones. -/

namespace DoorControl.Http.Host

/-- Characters from `first` to `last`, `step` apart, that are folded to as many from `target` on. -/
structure Fold where
  first : Nat
  last : Nat
  step : Nat
  target : Nat
  deriving DecidableEq, Repr

def folds : List Fold := [
  ⟨0xB2, 0xB3, 1, 0x32⟩, ⟨0xC0, 0xD6, 1, 0xE0⟩, ⟨0xD8, 0xDE, 1, 0xF8⟩, ⟨0x100, 0x12E, 2, 0x101⟩,
  ⟨0x134, 0x136, 2, 0x135⟩, ⟨0x139, 0x13D, 2, 0x13A⟩, ⟨0x141, 0x147, 2, 0x142⟩,
  ⟨0x14A, 0x176, 2, 0x14B⟩, ⟨0x179, 0x17D, 2, 0x17A⟩, ⟨0x182, 0x184, 2, 0x183⟩,
  ⟨0x189, 0x18A, 1, 0x256⟩, ⟨0x1A0, 0x1A4, 2, 0x1A1⟩, ⟨0x1B1, 0x1B2, 1, 0x28A⟩,
  ⟨0x1B3, 0x1B5, 2, 0x1B4⟩, ⟨0x1CD, 0x1DB, 2, 0x1CE⟩, ⟨0x1DE, 0x1EE, 2, 0x1DF⟩,
  ⟨0x1F8, 0x21E, 2, 0x1F9⟩, ⟨0x222, 0x232, 2, 0x223⟩, ⟨0x246, 0x24E, 2, 0x247⟩,
  ⟨0x2B0, 0x2B2, 2, 0x68⟩, ⟨0x370, 0x372, 2, 0x371⟩, ⟨0x388, 0x38A, 1, 0x3AD⟩,
  ⟨0x38E, 0x38F, 1, 0x3CD⟩, ⟨0x391, 0x3A1, 1, 0x3B1⟩, ⟨0x3A3, 0x3AB, 1, 0x3C3⟩,
  ⟨0x3D8, 0x3EE, 2, 0x3D9⟩, ⟨0x3FD, 0x3FF, 1, 0x37B⟩, ⟨0x400, 0x40F, 1, 0x450⟩,
  ⟨0x410, 0x42F, 1, 0x430⟩, ⟨0x460, 0x480, 2, 0x461⟩, ⟨0x48A, 0x4BE, 2, 0x48B⟩,
  ⟨0x4C1, 0x4CD, 2, 0x4C2⟩, ⟨0x4D0, 0x52E, 2, 0x4D1⟩, ⟨0x531, 0x556, 1, 0x561⟩,
  ⟨0x13F8, 0x13FD, 1, 0x13F0⟩, ⟨0x1C83, 0x1C84, 1, 0x441⟩, ⟨0x1C90, 0x1CBA, 1, 0x10D0⟩,
  ⟨0x1CBD, 0x1CBF, 1, 0x10FD⟩, ⟨0x1D2E, 0x1D30, 2, 0x62⟩, ⟨0x1D31, 0x1D39, 2, 0x65⟩,
  ⟨0x1D34, 0x1D3A, 2, 0x68⟩, ⟨0x1D40, 0x1D41, 1, 0x74⟩, ⟨0x1D44, 0x1D45, 1, 0x250⟩,
  ⟨0x1D48, 0x1D49, 1, 0x64⟩, ⟨0x1D4B, 0x1D4C, 1, 0x25B⟩, ⟨0x1D50, 0x1D52, 2, 0x6D⟩,
  ⟨0x1D54, 0x1D55, 1, 0x1D16⟩, ⟨0x1D57, 0x1D58, 1, 0x74⟩, ⟨0x1D5D, 0x1D5F, 1, 0x3B2⟩,
  ⟨0x1D60, 0x1D61, 1, 0x3C6⟩, ⟨0x1D64, 0x1D65, 1, 0x75⟩, ⟨0x1D66, 0x1D67, 1, 0x3B2⟩,
  ⟨0x1D69, 0x1D6A, 1, 0x3C6⟩, ⟨0x1DA4, 0x1DA6, 1, 0x268⟩, ⟨0x1DAE, 0x1DB1, 1, 0x272⟩,
  ⟨0x1DB3, 0x1DB4, 1, 0x282⟩, ⟨0x1DB6, 0x1DB7, 1, 0x289⟩, ⟨0x1DB9, 0x1DBA, 1, 0x28B⟩,
  ⟨0x1DBC, 0x1DBE, 1, 0x290⟩, ⟨0x1E00, 0x1E94, 2, 0x1E01⟩, ⟨0x1EA0, 0x1EFE, 2, 0x1EA1⟩,
  ⟨0x1F08, 0x1F0F, 1, 0x1F00⟩, ⟨0x1F18, 0x1F1D, 1, 0x1F10⟩, ⟨0x1F28, 0x1F2F, 1, 0x1F20⟩,
  ⟨0x1F38, 0x1F3F, 1, 0x1F30⟩, ⟨0x1F48, 0x1F4D, 1, 0x1F40⟩, ⟨0x1F59, 0x1F5F, 2, 0x1F51⟩,
  ⟨0x1F68, 0x1F6F, 1, 0x1F60⟩, ⟨0x1FB8, 0x1FB9, 1, 0x1FB0⟩, ⟨0x1FC8, 0x1FCA, 2, 0x1F72⟩,
  ⟨0x1FD8, 0x1FD9, 1, 0x1FD0⟩, ⟨0x1FE8, 0x1FE9, 1, 0x1FE0⟩, ⟨0x1FF9, 0x1FFB, 2, 0x3CC⟩,
  ⟨0x2074, 0x2079, 1, 0x34⟩, ⟨0x207D, 0x207E, 1, 0x28⟩, ⟨0x2080, 0x2089, 1, 0x30⟩,
  ⟨0x208D, 0x208E, 1, 0x28⟩, ⟨0x2096, 0x2099, 1, 0x6B⟩, ⟨0x209B, 0x209C, 1, 0x73⟩,
  ⟨0x210A, 0x210B, 1, 0x67⟩, ⟨0x2113, 0x2115, 2, 0x6C⟩, ⟨0x2119, 0x211B, 1, 0x70⟩,
  ⟨0x212C, 0x212D, 1, 0x62⟩, ⟨0x2130, 0x2131, 1, 0x65⟩, ⟨0x2146, 0x2147, 1, 0x64⟩,
  ⟨0x2148, 0x2149, 1, 0x69⟩, ⟨0x216D, 0x216E, 1, 0x63⟩, ⟨0x217D, 0x217E, 1, 0x63⟩,
  ⟨0x2329, 0x232A, 1, 0x3008⟩, ⟨0x2460, 0x2468, 1, 0x31⟩, ⟨0x24B6, 0x24CF, 1, 0x61⟩,
  ⟨0x24D0, 0x24E9, 1, 0x61⟩, ⟨0x2C00, 0x2C2F, 1, 0x2C30⟩, ⟨0x2C67, 0x2C6B, 2, 0x2C68⟩,
  ⟨0x2C7E, 0x2C7F, 1, 0x23F⟩, ⟨0x2C80, 0x2CE2, 2, 0x2C81⟩, ⟨0x2CEB, 0x2CED, 2, 0x2CEC⟩,
  ⟨0xA640, 0xA66C, 2, 0xA641⟩, ⟨0xA680, 0xA69A, 2, 0xA681⟩, ⟨0xA722, 0xA72E, 2, 0xA723⟩,
  ⟨0xA732, 0xA76E, 2, 0xA733⟩, ⟨0xA779, 0xA77B, 2, 0xA77A⟩, ⟨0xA77E, 0xA786, 2, 0xA77F⟩,
  ⟨0xA790, 0xA792, 2, 0xA791⟩, ⟨0xA796, 0xA7A8, 2, 0xA797⟩, ⟨0xA7B4, 0xA7C2, 2, 0xA7B5⟩,
  ⟨0xA7C7, 0xA7C9, 2, 0xA7C8⟩, ⟨0xA7D6, 0xA7D8, 2, 0xA7D7⟩, ⟨0xAB70, 0xABBF, 1, 0x13A0⟩,
  ⟨0xFE17, 0xFE18, 1, 0x3016⟩, ⟨0xFE35, 0xFE36, 1, 0x28⟩, ⟨0xFE39, 0xFE3A, 1, 0x3014⟩,
  ⟨0xFE3B, 0xFE3C, 1, 0x3010⟩, ⟨0xFE3D, 0xFE3E, 1, 0x300A⟩, ⟨0xFE3F, 0xFE40, 1, 0x3008⟩,
  ⟨0xFE41, 0xFE44, 1, 0x300C⟩, ⟨0xFE59, 0xFE5A, 1, 0x28⟩, ⟨0xFE5D, 0xFE5E, 1, 0x3014⟩,
  ⟨0xFE61, 0xFE62, 1, 0x2A⟩, ⟨0xFF01, 0xFF02, 1, 0x21⟩, ⟨0xFF04, 0xFF18, 2, 0x24⟩,
  ⟨0xFF07, 0xFF0D, 2, 0x27⟩, ⟨0xFF11, 0xFF1D, 2, 0x31⟩, ⟨0xFF21, 0xFF3A, 1, 0x61⟩,
  ⟨0xFF3F, 0xFF5B, 1, 0x5F⟩, ⟨0xFF5D, 0xFF5E, 1, 0x7D⟩, ⟨0xFF5F, 0xFF60, 1, 0x2985⟩,
  ⟨0xFF62, 0xFF63, 1, 0x300C⟩, ⟨0xFF75, 0xFF76, 1, 0x30AA⟩, ⟨0xFF85, 0xFF8A, 1, 0x30CA⟩,
  ⟨0xFF8F, 0xFF93, 1, 0x30DE⟩, ⟨0xFF96, 0xFF9B, 1, 0x30E8⟩, ⟨0xFF9E, 0xFF9F, 1, 0x3099⟩,
  ⟨0xFFA1, 0xFFA2, 1, 0x1100⟩, ⟨0xFFA3, 0xFFA5, 2, 0x11AA⟩, ⟨0xFFA7, 0xFFA9, 1, 0x1103⟩,
  ⟨0xFFAA, 0xFFAF, 1, 0x11B0⟩, ⟨0xFFB1, 0xFFB3, 1, 0x1106⟩, ⟨0xFFB5, 0xFFBE, 1, 0x1109⟩,
  ⟨0xFFC2, 0xFFC7, 1, 0x1161⟩, ⟨0xFFCA, 0xFFCF, 1, 0x1167⟩, ⟨0xFFD2, 0xFFD7, 1, 0x116D⟩,
  ⟨0xFFDA, 0xFFDC, 1, 0x1173⟩, ⟨0xFFE0, 0xFFE1, 1, 0xA2⟩, ⟨0xFFE9, 0xFFEC, 1, 0x2190⟩,
  ⟨0x10400, 0x10427, 1, 0x10428⟩, ⟨0x104B0, 0x104D3, 1, 0x104D8⟩, ⟨0x1D400, 0x1D419, 1, 0x61⟩,
  ⟨0x1D41A, 0x1D433, 1, 0x61⟩, ⟨0x1D434, 0x1D44D, 1, 0x61⟩, ⟨0x1D44E, 0x1D466, 2, 0x61⟩,
  ⟨0x1D44F, 0x1D453, 2, 0x62⟩, ⟨0x1D457, 0x1D467, 2, 0x6A⟩, ⟨0x1D468, 0x1D481, 1, 0x61⟩,
  ⟨0x1D482, 0x1D49B, 1, 0x61⟩, ⟨0x1D49C, 0x1D49E, 2, 0x61⟩, ⟨0x1D4A5, 0x1D4A6, 1, 0x6A⟩,
  ⟨0x1D4A9, 0x1D4AC, 1, 0x6E⟩, ⟨0x1D4AE, 0x1D4B5, 1, 0x73⟩, ⟨0x1D4B6, 0x1D4B9, 1, 0x61⟩,
  ⟨0x1D4BB, 0x1D4CF, 2, 0x66⟩, ⟨0x1D4BE, 0x1D4C2, 2, 0x69⟩, ⟨0x1D4C6, 0x1D4CE, 2, 0x71⟩,
  ⟨0x1D4D0, 0x1D4E9, 1, 0x61⟩, ⟨0x1D4EA, 0x1D503, 1, 0x61⟩, ⟨0x1D504, 0x1D505, 1, 0x61⟩,
  ⟨0x1D507, 0x1D50A, 1, 0x64⟩, ⟨0x1D50D, 0x1D514, 1, 0x6A⟩, ⟨0x1D516, 0x1D51C, 1, 0x73⟩,
  ⟨0x1D51E, 0x1D537, 1, 0x61⟩, ⟨0x1D538, 0x1D539, 1, 0x61⟩, ⟨0x1D53B, 0x1D53E, 1, 0x64⟩,
  ⟨0x1D540, 0x1D544, 1, 0x69⟩, ⟨0x1D54A, 0x1D550, 1, 0x73⟩, ⟨0x1D552, 0x1D56B, 1, 0x61⟩,
  ⟨0x1D56C, 0x1D585, 1, 0x61⟩, ⟨0x1D586, 0x1D59F, 1, 0x61⟩, ⟨0x1D5A0, 0x1D5B9, 1, 0x61⟩,
  ⟨0x1D5BA, 0x1D5D3, 1, 0x61⟩, ⟨0x1D5D4, 0x1D5ED, 1, 0x61⟩, ⟨0x1D5EE, 0x1D607, 1, 0x61⟩,
  ⟨0x1D608, 0x1D621, 1, 0x61⟩, ⟨0x1D622, 0x1D63B, 1, 0x61⟩, ⟨0x1D63C, 0x1D655, 1, 0x61⟩,
  ⟨0x1D656, 0x1D66F, 1, 0x61⟩, ⟨0x1D670, 0x1D689, 1, 0x61⟩, ⟨0x1D68A, 0x1D6A3, 1, 0x61⟩,
  ⟨0x1D6A8, 0x1D6B8, 1, 0x3B1⟩, ⟨0x1D6BA, 0x1D6C0, 1, 0x3C3⟩, ⟨0x1D6C2, 0x1D6D2, 1, 0x3B1⟩,
  ⟨0x1D6D4, 0x1D6DA, 1, 0x3C3⟩, ⟨0x1D6E2, 0x1D6F2, 1, 0x3B1⟩, ⟨0x1D6F4, 0x1D6FA, 1, 0x3C3⟩,
  ⟨0x1D6FC, 0x1D70C, 1, 0x3B1⟩, ⟨0x1D70E, 0x1D714, 1, 0x3C3⟩, ⟨0x1D71C, 0x1D72C, 1, 0x3B1⟩,
  ⟨0x1D72E, 0x1D734, 1, 0x3C3⟩, ⟨0x1D736, 0x1D746, 1, 0x3B1⟩, ⟨0x1D748, 0x1D74E, 1, 0x3C3⟩,
  ⟨0x1D756, 0x1D766, 1, 0x3B1⟩, ⟨0x1D768, 0x1D76E, 1, 0x3C3⟩, ⟨0x1D770, 0x1D780, 1, 0x3B1⟩,
  ⟨0x1D782, 0x1D788, 1, 0x3C3⟩, ⟨0x1D790, 0x1D7A0, 1, 0x3B1⟩, ⟨0x1D7A2, 0x1D7A8, 1, 0x3C3⟩,
  ⟨0x1D7AA, 0x1D7BA, 1, 0x3B1⟩, ⟨0x1D7BC, 0x1D7C2, 1, 0x3C3⟩, ⟨0x1D7CE, 0x1D7D7, 1, 0x30⟩,
  ⟨0x1D7D8, 0x1D7E1, 1, 0x30⟩, ⟨0x1D7E2, 0x1D7EB, 1, 0x30⟩, ⟨0x1D7EC, 0x1D7F5, 1, 0x30⟩,
  ⟨0x1D7F6, 0x1D7FF, 1, 0x30⟩, ⟨0x1F130, 0x1F149, 1, 0x61⟩]

/-- Characters that are folded by themselves. -/
def singles : String :=
  "ªµ¹ºŸſƁƆƇƋƎƏƐƑƓƔƖƗƘƜƝƟƦƧƩƬƮƯƷƸƼǴǶǷȠȺȻȽȾɁɃɄɅʱʳʴʵʶʷʸˠˡˢˣˤ̓ͅʹͶ;ͿΆ·ΌϏϐϑϒϓϔ" ++
  "ϕϖϰϱϲϴϵϷϹϺჇჍჼᲀᲁᲂᲅᲆᲇᲈᴬᴭᴲᴼᴽᴾᴿᵂᵃᵆᵇᵊᵍᵏᵑᵓᵖᵙᵚᵛᵜᵢᵣᵨᵸᶛᶜᶝᶞᶟᶠᶡᶢᶣᶧᶨᶩᶪᶫᶬᶭᶲᶵᶸᶻᶿẛάέή" ++
  "ίόύώᾺΆιΈΉΐῚΊΰῪΎῬ`ῸῺ‑⁰ⁱ⁺⁻⁼ⁿ₊₋₌ₐₑₒₓₔₕₚℂℇℌℍℎℏℐℑℒℜℝℤΩℨKÅℯℳℴℹℼℽℾℿ⅀ⅅⅠⅤⅩⅬⅯⅰⅴⅹ" ++
  "ⅼⅿ⓪ⱠⱢⱣⱤⱭⱮⱯⱰⱲⱵⱼⱽⳲⵯ。ꚜꚝꝰꝽꞋꞍꞪꞫꞬꞭꞮꞰꞱꞲꞳꟄꟅꟆꟐꟲꟳꟴꟵꟸꟹꭜꭝꭞꭟꭩ︐︑︔︕︱︲︳︴︷︸﹍﹎﹏﹐﹑﹔﹗﹘﹛﹜﹠﹣" ++
  "﹦﹩｡､･ｦｧｨｩｪｫｬｭｮｯｰｱｲｳｴｷｸｹｺｻｼｽｾｿﾀﾁﾂﾃﾄﾋﾌﾍﾎﾔﾕﾜﾝﾤﾦﾰﾴ￢￤￥￦￨￭￮𝒟𝒢𝕆𝚤𝚥𝚹𝛁𝛓𝛛𝛜𝛝𝛞𝛟𝛠𝛡𝛳𝛻" ++
  "𝜍𝜕𝜖𝜗𝜘𝜙𝜚𝜛𝜭𝜵𝝇𝝏𝝐𝝑𝝒𝝓𝝔𝝕𝝧𝝯𝞁𝞉𝞊𝞋𝞌𝞍𝞎𝞏𝞡𝞩𝞻𝟃𝟄𝟅𝟆𝟇𝟈𝟉𝟊𝟋🄫🄬"

/-- What they are folded to, in the same order. -/
def singleTargets : String :=
  "aμ1oÿsɓɔƈƌǝəɛƒɠɣɩɨƙɯɲɵʀƨʃƭʈưʒƹƽǵƕƿƞⱥȼƚⱦɂƀʉʌɦrɹɻʁwyɣlsxʕ̓ιʹͷ;ϳά·όϗβθυύϋ" ++
  "φπκρσθεϸσϻⴧⴭნвдотъѣꙋaæǝoȣprwaᴂbəgkŋɔpᴝɯvᴥirρнɒcɕðɜfɟɡɥᵻʝɭᶅʟɱɰɸƫᴜzθṡάέή" ++
  "ίόύώὰάιέήΐὶίΰὺύῥ\x60ὸὼ‐0i+−=n+−=aeoxəhpcɛhhhħiilrrzωzkåemoiπγγπ∑divxlm" ++
  "ivxlm0ⱡɫᵽɽɑɱɐɒⱳⱶjvⳳⵡ.ъьꝯᵹꞌɥɦɜɡɬɪʞʇʝꭓꞔʂᶎꟑcfqꟶħœꜧꬷɫꭒʍ,、;!—–__\x7b\x7d___" ++
  ",、;!—\x7b\x7d&-=$.、・ヲァィゥェォャュョッーアイウエキクケコサシスセソタチツテトヒフヘホヤユワンᄂᆭᄚᄡ¬¦¥₩│■○dg" ++
  "oıȷθ∇σ∂εθκφρπθ∇σ∂εθκφρπθ∇σ∂εθκφρπθ∇σ∂εθκφρπθ∇σ∂εθκφρπϝϝcr"

/-- Characters that are folded to several. -/
def expansions : List (Char × String) := [
  ('¼', "1⁄4"), ('½', "1⁄2"), ('¾', "3⁄4"), ('İ', "i̇"), ('Ĳ', "ij"), ('ĳ', "ij"), ('Ŀ', "l·"),
  ('ŀ', "l·"), ('ŉ', "ʼn"), ('Ǆ', "dž"), ('ǅ', "dž"), ('ǆ', "dž"), ('Ǉ', "lj"), ('ǈ', "lj"),
  ('ǉ', "lj"), ('Ǌ', "nj"), ('ǋ', "nj"), ('ǌ', "nj"), ('Ǳ', "dz"), ('ǲ', "dz"), ('ǳ', "dz"),
  ('և', "եւ"), ('ẚ', "aʾ"), ('ẞ', "ss"), ('″', "′′"), ('‴', "′′′"), ('‶', "‵‵"), ('‷', "‵‵‵"),
  ('‼', "!!"), ('⁗', "′′′′"), ('₨', "rs"), ('℃', "°c"), ('℉', "°f"), ('№', "no"), ('℠', "sm"),
  ('℡', "tel"), ('™', "tm"), ('℻', "fax"), ('⅐', "1⁄7"), ('⅑', "1⁄9"), ('⅒', "1⁄10"), ('⅓', "1⁄3"),
  ('⅔', "2⁄3"), ('⅕', "1⁄5"), ('⅖', "2⁄5"), ('⅗', "3⁄5"), ('⅘', "4⁄5"), ('⅙', "1⁄6"), ('⅚', "5⁄6"),
  ('⅛', "1⁄8"), ('⅜', "3⁄8"), ('⅝', "5⁄8"), ('⅞', "7⁄8"), ('⅟', "1⁄"), ('Ⅱ', "ii"), ('Ⅲ', "iii"),
  ('Ⅳ', "iv"), ('Ⅵ', "vi"), ('Ⅶ', "vii"), ('Ⅷ', "viii"), ('Ⅸ', "ix"), ('Ⅺ', "xi"), ('Ⅻ', "xii"),
  ('ⅱ', "ii"), ('ⅲ', "iii"), ('ⅳ', "iv"), ('ⅵ', "vi"), ('ⅶ', "vii"), ('ⅷ', "viii"), ('ⅸ', "ix"),
  ('ⅺ', "xi"), ('ⅻ', "xii"), ('↉', "0⁄3"), ('∬', "∫∫"), ('∭', "∫∫∫"), ('∯', "∮∮"), ('∰', "∮∮∮"),
  ('⑩', "10"), ('⑪', "11"), ('⑫', "12"), ('⑬', "13"), ('⑭', "14"), ('⑮', "15"), ('⑯', "16"),
  ('⑰', "17"), ('⑱', "18"), ('⑲', "19"), ('⑳', "20"), ('⑴', "(1)"), ('⑵', "(2)"), ('⑶', "(3)"),
  ('⑷', "(4)"), ('⑸', "(5)"), ('⑹', "(6)"), ('⑺', "(7)"), ('⑻', "(8)"), ('⑼', "(9)"),
  ('⑽', "(10)"), ('⑾', "(11)"), ('⑿', "(12)"), ('⒀', "(13)"), ('⒁', "(14)"), ('⒂', "(15)"),
  ('⒃', "(16)"), ('⒄', "(17)"), ('⒅', "(18)"), ('⒆', "(19)"), ('⒇', "(20)"), ('⒜', "(a)"),
  ('⒝', "(b)"), ('⒞', "(c)"), ('⒟', "(d)"), ('⒠', "(e)"), ('⒡', "(f)"), ('⒢', "(g)"), ('⒣', "(h)"),
  ('⒤', "(i)"), ('⒥', "(j)"), ('⒦', "(k)"), ('⒧', "(l)"), ('⒨', "(m)"), ('⒩', "(n)"), ('⒪', "(o)"),
  ('⒫', "(p)"), ('⒬', "(q)"), ('⒭', "(r)"), ('⒮', "(s)"), ('⒯', "(t)"), ('⒰', "(u)"), ('⒱', "(v)"),
  ('⒲', "(w)"), ('⒳', "(x)"), ('⒴', "(y)"), ('⒵', "(z)"), ('ﬀ', "ff"), ('ﬁ', "fi"), ('ﬂ', "fl"),
  ('ﬃ', "ffi"), ('ﬄ', "ffl"), ('ﬅ', "st"), ('ﬆ', "st"), ('ﬓ', "մն"), ('ﬔ', "մե"), ('ﬕ', "մի"),
  ('ﬖ', "վն"), ('ﬗ', "մխ")]

/-- The characters that are left out. -/
def ignored : List (Nat × Nat) := [
  (0xAD, 0xAD), (0x34F, 0x34F), (0x180B, 0x180D), (0x180F, 0x180F), (0x200B, 0x200B), (0x2060, 0x2060),
  (0x2064, 0x2064), (0xFE00, 0xFE0F), (0xFEFF, 0xFEFF), (0x1BCA0, 0x1BCA3), (0xE0100, 0xE01EF)]

/-- The characters that no name holds. -/
def refused : List (Nat × Nat) := [
  (0x80, 0xA0), (0xA8, 0xA8), (0xAF, 0xAF), (0xB4, 0xB4), (0xB8, 0xB8), (0x2D8, 0x2DD), (0x37A, 0x37A),
  (0x384, 0x385), (0x600, 0x605), (0x61C, 0x61C), (0x6DD, 0x6DD), (0x70F, 0x70F), (0x115F, 0x1160),
  (0x1680, 0x1680), (0x17B4, 0x17B5), (0x1806, 0x1806), (0x180E, 0x180E), (0x1FBD, 0x1FBD),
  (0x1FBF, 0x1FC1), (0x1FCD, 0x1FCF), (0x1FDD, 0x1FDF), (0x1FED, 0x1FEE), (0x1FFD, 0x1FFE),
  (0x2000, 0x200A), (0x200C, 0x200F), (0x2017, 0x2017), (0x2024, 0x2026), (0x2028, 0x202F),
  (0x203E, 0x203E), (0x2047, 0x2049), (0x205F, 0x205F), (0x2061, 0x2063), (0x2066, 0x206F),
  (0x2100, 0x2101), (0x2105, 0x2106), (0x2488, 0x249B), (0x2A74, 0x2A74), (0x2FF0, 0x2FFB),
  (0x3000, 0x3000), (0x309B, 0x309C), (0x3164, 0x3164), (0x33C2, 0x33C2), (0x33C7, 0x33C7),
  (0x33D8, 0x33D8), (0xE000, 0xF8FF), (0xFC5E, 0xFC63), (0xFDD0, 0xFDEF), (0xFDFA, 0xFDFB),
  (0xFE12, 0xFE13), (0xFE16, 0xFE16), (0xFE19, 0xFE19), (0xFE30, 0xFE30), (0xFE47, 0xFE4C),
  (0xFE52, 0xFE52), (0xFE55, 0xFE56), (0xFE5F, 0xFE5F), (0xFE64, 0xFE65), (0xFE68, 0xFE68),
  (0xFE6A, 0xFE6B), (0xFF03, 0xFF03), (0xFF05, 0xFF05), (0xFF0F, 0xFF0F), (0xFF1A, 0xFF1A),
  (0xFF1C, 0xFF1C), (0xFF1E, 0xFF20), (0xFF3B, 0xFF3E), (0xFF5C, 0xFF5C), (0xFFA0, 0xFFA0),
  (0xFFE3, 0xFFE3), (0xFFF0, 0xFFFF), (0x1D173, 0x1D17A), (0x1F100, 0x1F100), (0xE0000, 0xE007F),
  (0xF0000, 0x10FFFF)]

/-- The accents that join the letter before them: what they join, and what comes of it. -/
def accents : List (Nat × String × String) := [
  (0x300, "aeiouünеиēōwâăêôơưyαεηιουωϊϋ", "àèìòùǜǹѐѝḕṑẁầằềồờừỳὰὲὴὶὸὺὼῒῢ"),
  (0x301, "aeiouyclnrszügåæøϊαεηιϋουωϒгкçēïkmõōpũwâăêôơư", "áéíóúýćĺńŕśźǘǵǻǽǿΐάέήίΰόύώϓѓќḉḗḯḱḿṍṓṕṹẃấắếốớứ"),
  (0x302, "aeioucghjswyzạẹọ", "âêîôûĉĝĥĵŝŵŷẑậệộ"),
  (0x303, "anoiuvâăeêôơưy", "ãñõĩũṽẫẵẽễỗỡữỹ"),
  (0x304, "aeiouüäȧæǫöõȯyиуgḷṛαιυ", "āēīōūǖǟǡǣǭȫȭȱȳӣӯḡḹṝᾱῑῡ"),
  (0x306, "aegiouиужаеȩạαιυ", "ăĕğĭŏŭйўӂӑӗḝặᾰῐῠ"),
  (0x307, "cegzaobdfhmnprsśšṣtwxyſ", "ċėġżȧȯḃḋḟḣṁṅṗṙṡṥṧṩṫẇẋẏẛ"),
  (0x308, "aeiouyιυϒеіаәжзиоөэучыhõūwxt", "äëïöüÿϊϋϔёїӓӛӝӟӥӧӫӭӱӵӹḧṏṻẅẍẗ"),
  (0x309, "aâăeêioôơuưy", "ảẩẳẻểỉỏổởủửỷ"),
  (0x30A, "auwy", "åůẘẙ"),
  (0x30B, "ouу", "őűӳ"),
  (0x30C, "cdelnrstzaiouügkʒjh", "čďěľňřšťžǎǐǒǔǚǧǩǯǰȟ"),
  (0x30F, "aeioruѵ", "ȁȅȉȍȑȕѷ"),
  (0x311, "aeioru", "ȃȇȋȏȓȗ"),
  (0x313, "αεηιουωρ", "ἀἐἠἰὀὐὠῤ"),
  (0x314, "αεηιουωρ", "ἁἑἡἱὁὑὡῥ"),
  (0x31B, "ou", "ơư"),
  (0x323, "bdhklmnrstvwzaeioơuưy", "ḅḍḥḳḷṃṇṛṣṭṿẉẓạẹịọợụựỵ"),
  (0x324, "u", "ṳ"),
  (0x325, "a", "ḁ"),
  (0x326, "st", "șț"),
  (0x327, "cgklnrstedh", "çģķļņŗşţȩḑḩ"),
  (0x328, "aeiuo", "ąęįųǫ"),
  (0x32D, "delntu", "ḓḙḽṋṱṷ"),
  (0x32E, "h", "ḫ"),
  (0x330, "eiu", "ḛḭṵ"),
  (0x331, "bdklnrtzh", "ḇḏḵḻṉṟṯẕẖ")]

def inRanges (ranges : List (Nat × Nat)) (c : Char) : Bool :=
  ranges.any (fun (first, last) => first ≤ c.toNat && c.toNat ≤ last)

/-- What a character is folded to. -/
def fold (c : Char) : List Char :=
  let n := c.toNat
  if n < 128 then [c.toLower]
  else if inRanges ignored c then []
  else match folds.find? (fun f => f.first ≤ n && n ≤ f.last && (n - f.first) % f.step = 0) with
    | some f => [Char.ofNat (f.target + (n - f.first))]
    | none => match (singles.toList.zip singleTargets.toList).lookup c, expansions.lookup c with
        | some d, _ => [d]
        | none, some s => s.toList
        | none, none => [c]

/-- A letter with an accent behind it as one character, if there is one. -/
def joined? (letter accent : Char) : Option Char :=
  match accents.lookup accent.toNat with
  | some (letters, joined) => (letters.toList.zip joined.toList).lookup letter
  | none => none

/-- A text whose accents have joined the letters before them. -/
def joinAccents (cs : List Char) : List Char :=
  (cs.foldl (fun (done : List Char) c =>
    match done with
    | letter :: rest => match joined? letter c with
        | some d => d :: rest
        | none => c :: done
    | [] => [c]) []).reverse

end DoorControl.Http.Host
