/-!
# Classes of characters

Letters, identifiers, numerals and printable characters (version 14 of the character database). An
identifier begins with a letter, with a few exceptions both ways, and goes on with marks, digits and
connectors. A character is unprintable when it is a control, format, surrogate, private-use or
unassigned character, or a separator other than the plain space.

Capital letters have a small form, at one of the distances below from them, and so have title-case
letters. Some letters have a case without being a part of such a pair. The small form of a sigma
depends on its place in a word.
-/

namespace Oxidize.Text

namespace Unicode

/-- The lengths of the stretches of code points that lack a property and have it, in turn. -/
abbrev CharRuns := List Nat

namespace CharRuns

/-- The lengths in a row, where `n` has been read of the first one. A length is written in base
eight, from its highest digit on, and eight is added to its last digit; the row begins with its
lowest digit in base sixteen. -/
def ofRow : Nat → Nat → Nat → CharRuns
  | 0, _, _ => []
  | fuel + 1, n, row =>
    if row = 0 then []
    else if row % 16 < 8 then ofRow fuel (8 * n + row % 16) (row / 16)
    else (8 * n + row % 16 - 8) :: ofRow fuel 0 (row / 16)

def unpack (rows : List Nat) : CharRuns :=
  rows.flatMap (ofRow 90 0)

/-- Does the code point `n` have the property, if the first stretch has it or lacks it as `has`
says? -/
def holdsNat (has : Bool) : CharRuns → Nat → Bool
  | [], _ => has
  | length :: rest, n => if n < length then has else holdsNat (!has) rest (n - length)

def holds (runs : CharRuns) (c : Char) : Bool :=
  holdsNat false runs c.toNat

end CharRuns

/-- The characters with a property: those of some stretches, and every second one of others. -/
structure CharSet where
  all : CharRuns := []
  even : CharRuns := []
  /-- Stretches of which the odd code points have it. -/
  odd : CharRuns := []

namespace CharSet

def holdsNat (s : CharSet) (n : Nat) : Bool :=
  CharRuns.holdsNat false s.all n ||
    CharRuns.holdsNat false (if n % 2 == 0 then s.even else s.odd) n

def holds (s : CharSet) (c : Char) : Bool :=
  s.holdsNat c.toNat

end CharSet

def letterRuns : CharRuns :=
  .unpack
    [0xAB4B5D5CCB3F0195E9AE49E4281B129B219C2999B99E99CAA9D902999FDE1C1CA179F39F2D9C9A19F5A3EA3901,
     0x9E2AAA81C82F1A1F9A29BE6A7A592E983DB1F93F29B9919CE2D9CA9194839B1931D3E399829ABA1AFAF199B419,
     0xE39BD9A9F9E2AAA81B19F2AF19A29BD9A9F9E29B99182BB299CF3A9A9A9F9E2AACE819A1AE1B9AD19829BCB99F,
     0x9A959B99192AF1A9AF39BD9A19F29B981C9E3AA9ABA39B829F29B981C69E2C1BBBABA999ABC9BBE99929F1B9A,
     0xAB9BCCE829C2B5B61DB3C4981F7984CD299DA991A9A1999839D999AA7FC1A986A7FA9991983BA2DE83B81BD982,
     0xF81EB11DA3992AC511BEAE218282D4B01AC9979F1AC999FAC994AC995AC999FAC9D159B5A9D99E4929C1D1CBF,
     0xA1AD1E3E68192F5D319A21D691F2E6A3CC5B1DAE396F3A1E01D99A4ADF931B019C9B4C6F1B9D1E1A2E1B2D1A2,
     0x829D19C61F9BDD1CEACBF9BB99F9D6AF3999999981AEAE4AEAE24801803D9BA9E9C95BAB5F91AC4A1B95C4A3C5,
     0xA5AD279821F9F9F9F9F9F9F9F91F2829F87A9D99E4C1ABCED43B715AC69CDDCAB19C999999EDB99A1A9C9D41D1,
     0x99AD801AF41A9196E01AF382F5C2AA182BD14AE5B01D123580180741800182868492E319B5DC9A319BEE21CADD,
     0xFB1AB83999ADAAB99A6B9BF2C2819BF2959DA1A19D829C3F5FD393F2A1C3B1A99BEE7A6E1C6D3F29C9B98283D9,
     0x85E6A801A2B5594C519A9A999D9D19A199DDC1FE4A51AE55C040296CF2C1C4652D3B61EE19B59F9F91EAEAEC1B,
     0xE328681CC4AE3A1E4E819C2D184F596BD3D06B71A4E1AF19A9B29A39C1B4BAEAEAEB931B1A3EA3C4F029DC61C1,
     0xA9B2901F391F2A1F2A9BA9C599AED01919A59E8381A1E291F64B01A9F9F19B19A9F9F19B1C1C68185CC4CC4A2,
     0x9A1D3E11AEA5C35C4D1B6D1B6F6911E51A2D1B2A1E2A1E6B3C3981B4D3BD3A5D39B9CF19801AE87E01A3A1E2A1,
     0xAA81E4F5FA19F19C999FC21939A2B4999D2CE186C19BB4819A9D3C4A39384D5D19AA97D6C1F2B3D2E5A2A5E281,
     0x9A981A9A81F3801C61C5972FD4B3F019D1B5B79C286C4C95F587299AC286E3BC2CA2D6E32DC19A29BD9A9F9E2A,
     0xD72B2F059E1849A9E939D2E49A9F861E396992D4991F04911A29B2E5B19D29F85A19C399982F4A81E31999F183,
     0xD1A019DB118028018621B2DD2F3C8286A2E392F1192F3F970197602F0119277F502F1941C115C03E43A361F119,
     0x999C19CAAA9AA9F019D21E4531A1F91BD1DB51C044C1681C92BD5B449A9F9CF431291A5E2328187731C399A801,
     0xC632C5A2E3905982FA1D5947F3C643819939F39939F39939F39939F3993993AC259FB99D9C9C39F981AC99019F,
     0xD9BD929A1999C9C9F9CA99A9999999999A99A9B999999C9E9999C9A199A99A9B39CC6229FC01B7D039F19A9C9F,
     0xB1511A472E301F30696461E1A0231AE33F9700184843321C0501929]

def isLetter (c : Char) : Bool :=
  CharRuns.holds letterRuns c

/-- Characters that begin an identifier without being letters. -/
def startOnlyRuns : CharRuns :=
  [95,1,5774,3,404,2,2193,1,21,1,49,35,2,4,3710,1,25,9,14,3,30379,10,23120,53,460,1,8,1,134,5,8234,
   111]

def letterNotStartRuns : CharRuns :=
  [890,1,2744,1,127,1,8059,1,52782,6,406,2,116,1,1,1,1,1,1,1,1,1,1,1,1,1,1,1,287,2]

/-- Stretches of characters that may continue an identifier, with all that may not begin one. -/
def continueRuns : CharRuns :=
  .unpack
    [0xA9029A11C7BB58383991C6F1B1B31A7F2829A1AFD419EF386B181199A9A999D5914DB739F286181119D71A186,
     0xC9BBDB79A2A1AAA1BFBAAA9187B9EA1A1AAC2B9B9A187BB182C29BBAACD9987BA9E1A1AAA1991BAAA9187B92A1,
     0xC1A1D7AAA1E81999EC9E01B92A1AAA1991C9B9A1F6C82A1AAB1AFC9B99187B92A1AAB1AFC9B991F6D82A1E1991,
     0x94A1A99184801AE3AD3BC3C84619191BF721811C1F3C41991C49A29C296AC99999B1A1EAE7A1AEB1C1F21A1981,
     0x801E03E49BE61A1EA181C286C61C19192A1B1D0196829E1E2A1EB1AD39A197DC7B1802A1A1C1CC1E619F12B19B,
     0xC5D193F5D1A2EA1A1E01B219CE4824C2184A1C9D01A1D0627A951EA501848419D12BE775C1B9CD1B719B2AF701,
     0xDD229A439D311AE319D4A1803B83AB82828294319C4474A1AA981C53ADD95F0194A1AB1C1E1F5D2B1A1F1901,
     0xA21C19C81901C19C5ADA19D6EA1D59FC7A1F1F3F01A71C96B1932A965A181CD701AD429CB85CDA9BF252A1D44,
     0xA1CF1B21A181D1921A1F192A21AB391AFD23A1C1C29219CA191A2803DBFAAA1991BAAAA1F6CEA1DC18429EC1,
     0xA181D9A9D86A181919A99BEA71E19E287A18281981D2691191981E7C39BFAFF61A1C191AA9EE01A1D42F1A63,
     0xCF68001A69162BC22CE3FA8181EBDE301F2AE594111AB5264AB19921CF97D671A193FB7DE4A1E21A195554C915,
     0x863E042003A1E2211A1DFD51FE272E1D79C45A191FD04D9A9FA929F8252F19DE29E1981A6]

def isIdentifierStart (c : Char) : Bool :=
  CharRuns.holds startOnlyRuns c ||
    (isLetter c && !CharRuns.holds letterNotStartRuns c)

def isIdentifierPart (c : Char) : Bool :=
  isIdentifierStart c || CharRuns.holds continueRuns c

def digitRuns : CharRuns :=
  .unpack
    [0xE01A1E61A1841A1E61A1E61A1E61A1E61A1E61A1E61A1E61A1E61A1E61A1C36A1E03A1E02A1E4629DA871A186,
     0x91B191B191E271A1EEB9E202A1EA1E02A1E21A1E62A1EA1D42B1802A1C54A1E4A1E51291F131A1E01A1E24A1,
     0x95791E44A1C531CE262A1E062A1E2415A1E26A1E21A1E2A1E03A1E4A1E421A1D127791991991E6119991A19931,
     0xA1E21A1E6264A1E01A1E63A1E631A1E41A1E46A1E41A1E41A1E65A1E61A1E25A1E24A1822A1C7A1802A1B191,
     0xA1D435B1E463A1E213A1E46A18054A6C6166A1E02]

/-- The characters that carry a numeric value and are no letters, but for digits. -/
def otherNumberRuns : CharRuns :=
  .unpack
    [0x91939914199552D28021C2F11B6F331DAB6E254A1F73B9651B1E702A19669192F933FD02B871E875ED644BC72,
     0xEE2DB1191F4F9381A022DE029819D3CC4B3D25A9297C1D592345E805A1E4027F1F4A184F1981E3A1A12CF25BE1,
     0xD2B251B2F45191E56AD052C2B75B1F12F861CA5A1E32E2955EA15F95818381851DB11BE3AC6DC01E5A82AA842,
     0xAD171F19D5C11C9B9B7946191E152193C51C291126F2E341FC5334F51B502]

/-- Does `c` stand for a digit, in any script and also as a superscript? -/
def isDigit (c : Char) : Bool :=
  CharRuns.holds digitRuns c

def isNumber (c : Char) : Bool :=
  isDigit c || CharRuns.holds otherNumberRuns c

/-- The zeros of the scripts; the digits of a script stand in order from its zero. -/
def decimalZeros : List Nat :=
  [48,1632,1776,1984,2406,2534,2662,2790,2918,3046,3174,3302,3430,3558,3664,3792,3872,4160,4240,
   6112,6160,6470,6608,6784,6800,6992,7088,7232,7248,42528,43216,43264,43472,43504,43600,44016,
   65296,66720,68912,69734,69872,69942,70096,70384,70736,70864,71248,71360,71472,71904,72016,72784,
   73040,73120,92768,92864,93008,120782,120792,120802,120812,120822,123200,123632,125264,130032]

def decimalDigit? (c : Char) : Option Nat :=
  let n := c.toNat
  (decimalZeros.find? fun z => z ≤ n && n < z + 10).map (n - ·)

/-- Stretches of printable characters, with all that are no part of an identifier. -/
def otherPrintableRuns : CharRuns :=
  .unpack
    [0x81E71A9719871C1902D1B339959F3F186ACC85386918729E292AC591E5BA96823C22861ADDC81319C1A4F3184,
     0x81D32AF01BE11AC5F511E41A1B2D3C4119B31E21F51D19F1879F01D7D42D3A119A71A192F819A13E1C71B1871,
     0x81C39492B3B992F5818392AD1B2D1BB1D95319B181801AE7DB7CD71D4B32982E1802AE3A4832AB9D64B1EA1C2,
     0xF682235847519F3C3C21C22941B31F7DC1A3E23C19319A3A4E31F129861FE1C25984AC243D2B193F221CC12B3,
     0xA63B32928129954518004C20629F7192951C2C41E3C71A82D19419F58785AE21CA7A1CCD32B1281812841A24F6,
     0xB1191F495F4319E369869B71CC4B3C43D5F59BD19831BD5CBA04AD1F9FA71D41A02919DCC9B29B4E284A59F71,
     0xAD21C2CFB71FB7CC591A5A1F519E5F3845EA15FC1C9381838183FA01C1A4985B4C491F91801E5AC2C719F39B94,
     0xC2DE3691B2181C319B32B92191E529B73E8029C11D1C3B951F2A73985199929469B51EB01C29B3F11A86CE71C9,
     0xD2851E2C01AF4A1E63C7C6186211C972649F05B3E341FD2F19019D02AB7153AC755D86129D1A6F03AD021ABB2,
     0xA1D49F19F1AF1C1C41CC5E14AA66D7C11C019241AE1291F0729F569B033C121C7B0481519391F21C1C2A32E01,
     0xDB1BD391FBDBDAE1C1C25E11AAE38185EA18187CC1F19CC1F931C1C61BD1B82D8371A32EE1AF91CC5D1D387E52,
     0xF69B2291F8181EA1A1E]

def isPrintable (c : Char) : Bool :=
  isIdentifierPart c || CharRuns.holds otherPrintableRuns c

/-! ## Letter case -/

/-- Capital letters with one small form, by what to add to the code point of the letter. -/
def lowerShifts : List (Int × CharSet) :=
  [(1,
    { all := [386,1,1,1,2,1,3,1,5,1,6,1,14,1,4,1,2,1,3,1,1,1,2,1,3,1,8,1,2,1,41,1,1,1,70,1,5,1,302,
        1,1,1,3,1,128,1,2,1,7560,1,2780,1,17,1,2,1,117,1,1,1,4,1,31366,1,1,1,15,1,4,1,1,1,52,1,1,1,
        6,1,5,1,1,1,28,1]
      even := [256,47,3,5,19,45,41,5,57,17,9,39,3,17,19,9,393,23,113,33,9,53,17,95,6353,149,11,95,
        3457,99,31069,45,19,27,135,13,3,61,15,9,15,19,11,15]
      odd := [313,15,49,5,77,17,741,13,10137,5] }),
   (32,
    { all := [65,26,101,23,1,7,690,17,1,9,100,32,64241,26,6501,32,21888,32] }),
   (48, { all := [1329,38,9897,48] }),
   (38864, { all := [5024,80] }),
   (-8,
    { all := [7944,8,8,6,10,8,8,8,8,6,26,8,24,8,8,8,8,8,8,2,30,2,14,2]
      odd := [8025,7] }),
   (40, { all := [66560,40,136,36] }),
   (64, { all := [908,1,67827,51] }),
   (-3008, { all := [7312,43,2,3] }),
   (7264, { all := [4256,38,1,1,5,1] }),
   (39, { all := [66928,11,1,15,1,7,1,2] }),
   (34, { all := [125184,34] }),
   (26, { all := [9398,26] }),
   (80, { all := [1024,16] }),
   (16, { all := [8544,16] }),
   (8, { all := [975,1,4128,6] }),
   (2, { all := [452,1,2,1,2,1,38,1] }),
   (-130, { all := [544,1,476,3] }),
   (-86, { all := [8136,4] })]

def lowerPairs : List (Nat × Nat) :=
  [(376,255),(385,595),(390,596),(393,598),(394,599),(398,477),(399,601),(400,603),(403,608),
   (404,611),(406,617),(407,616),(412,623),(413,626),(415,629),(422,640),(425,643),(430,648),
   (433,650),(434,651),(439,658),(502,405),(503,447),(570,11365),(573,410),(574,11366),(579,384),
   (580,649),(581,652),(895,1011),(902,940),(904,941),(905,942),(906,943),(910,973),(911,974),
   (1012,952),(1017,1010),(1216,1231),(7838,223),(8122,8048),(8123,8049),(8124,8115),(8140,8131),
   (8154,8054),(8155,8055),(8170,8058),(8171,8059),(8172,8165),(8184,8056),(8185,8057),(8186,8060),
   (8187,8061),(8188,8179),(8486,969),(8490,107),(8491,229),(8498,8526),(11362,619),(11363,7549),
   (11364,637),(11373,593),(11374,625),(11375,592),(11376,594),(11390,575),(11391,576),(42877,7545),
   (42893,613),(42922,614),(42923,604),(42924,609),(42925,620),(42926,618),(42928,670),(42929,647),
   (42930,669),(42931,43859),(42948,42900),(42949,642),(42950,7566)]

def lowerNat (n : Nat) : Nat :=
  match lowerShifts.find? fun s => s.2.holdsNat n with
  | some (shift, _) => (n + shift).toNat
  | none => (lowerPairs.lookup n).getD n

/-- Does a letter have this small form? -/
def isLowered (n : Nat) : Bool :=
  lowerShifts.any (fun (shift, s) => shift ≤ n && s.holdsNat (n - shift).toNat) ||
    lowerPairs.any (·.2 == n)

def titlecase : CharSet where
  all := [453,1,2,1,2,1,38,1,7573,8,8,8,8,8,12,1,15,1,47,1]

def otherUppercaseRuns : CharRuns :=
  [304,1,673,3,7469,1,4,1,3,3,2,3,2,1,3,5,6,1,3,1,3,2,2,2,1,1,10,2,5,1,111290,26,26,26,26,26,26,1,
   1,2,2,1,2,2,2,4,1,8,26,26,26,2,1,4,2,8,1,7,27,2,1,4,1,5,1,1,3,7,27,26,26,26,26,26,26,26,26,26,
   26,26,30,25,33,25,33,25,33,25,33,25,33,1,6501,26,6,26,6,26]

def otherLowercaseRuns : CharRuns :=
  .unpack
    [0xDE3AFA3A81999DEBA99A9F9AA99AD9A999ABA999A9B3EA29869969B9E1AE19D19D19D69829E9E619C9A19A52,
     0xA9999B9EA9999B3199999998629981E23969829B9971F6191F6331AE49B459E9BA93ABAD19929F39D29C69841,
     0xA4999B49939E9D291E7AA22AF66479E41FA9A9F445C81AA9C9C9B39BAB9D51D1829D19971A9999A1A9BA1AAAA1,
     0xA3A3A3A3A3A3A3A3A3A3A3A3A3A3B19F999CA3A3A3A29FA3A3F31641919A59BA98516DC1FF2674D19F9B4D641B,
     0xC29A1C64399E993A3E993A3E993A3E993A3E993C3C3A3A3A3]

def isTitle (c : Char) : Bool :=
  titlecase.holds c

def isUpper (c : Char) : Bool :=
  lowerNat c.toNat != c.toNat && !isTitle c || CharRuns.holds otherUppercaseRuns c

def isLower (c : Char) : Bool :=
  isLowered c.toNat || CharRuns.holds otherLowercaseRuns c

/-- Characters that do not interrupt a word when the place of a sigma in it is determined. -/
def caseIgnorableRuns : CharRuns :=
  .unpack
    [0x981D41982D2A19B499B1A1EB19C599A9A999D5969D9F13FB7399A919CAC803F67AA9C999C9F01999B49B19E9F4,
     0xAACAC997AA9A3AC2981CC9A79F19D1AA1FB9C81C999F6A79581EAF9C5BB583839A9CB1A7B1B31B3E399994C9A1,
     0xAC3AC2AD9E9A9A79D3AB1AFC9BDB99F69B9A69C19D79E3AB1AF981C99A9A799EE2AC29CA9DC997AB19BAE39BB,
     0xC82BCA93AAA9E9CE41991C49B1DA9D9E1F699999B3AA11E999191A9A4191B1FA9A3199BF98119D3AC2981CCA97,
     0xA9999F99A79AAB33BE991ACBE619A4A9019B6DD59D9BB1A981F9A801AE3AE3AD3BA661B84119E319F19EAA9D1,
     0x9D76D41A49D1F7A6AB9E9CF9D19BA21E801AA81A7B99BA9987B9AAC84AC191859D99D9986C96F3819F49AA1E81,
     0xBD31ED319DDBCC49D279F5848419F19D71B961AB16594B6D1829D199A19D96DA9A9A1A81DC1AD1BD1BD1BB1B9,
     0xAACA986BE5B19381E49D1A2A3AF229DA939C9B981ABBF41BF29E11A4E1A821CC399A19CA419E14EA4329E2476,
     0x9A9A482C19B82D70192B229864749C9A9971B91DC4199ADAE19B399ADAAB99B69B19B49819C1AAAAEA01AD2992,
     0xC96B1932AB06CD701AD429CB85CDA9BE011919A59ED002DD229A4399001BD29B01AD59F5999B49B19E9F9952,
     0x9BA81B03DBFD49BA97AD281B98429EA99ABF319ACA191C6AC19E7819DC4BA69A19C9AAAC96BA1AA995F1E69B71,
     0xE91981CAE85A1849CAAC8229C99A804A991B04D9CABD4199EA999A51A99A81D21AB3A9AECE53A9AC99EC219F29,
     0xB1004A9A80192F79B102C91FB7DF623391B7421AB35999BA81199F9A99BEA71A9A9FAE2A2199E9FE26A9D1E5BA,
     0xCD79865E1D04D9A9FA929F8252F19DE29E1981A6CF6B763BC22CE3FA8291B8401F2AE5C3111C9AE326A9F9C,
     0x863802841E399006003DF52581D51F8472]

def isCased (c : Char) : Bool :=
  isUpper c || isLower c || isTitle c

/-- Is there a letter with case next to a place, past what does not interrupt a word? -/
def meetsCased (cs : List Char) : Bool :=
  ((cs.dropWhile (CharRuns.holds caseIgnorableRuns)).head?.map isCased).getD false

/-- The small form of `c` between the characters `before`, nearest first, and `after`. -/
def lowerChar (before : List Char) (c : Char) (after : List Char) : List Char :=
  if c == '\u03a3' then
    [if meetsCased before && !meetsCased after then '\u03c2' else '\u03c3']
  else if c == '\u0130' then ['i', '\u0307']
  else [Char.ofNat (lowerNat c.toNat)]

/-- The small forms of all characters, with the characters before them, nearest first. -/
def lowerChars (before : List Char) : List Char → List Char
  | [] => []
  | c :: cs => lowerChar before c cs ++ lowerChars (c :: before) cs

end Unicode

def lower (s : String) : String :=
  String.ofList (Unicode.lowerChars [] s.toList)

end Oxidize.Text
