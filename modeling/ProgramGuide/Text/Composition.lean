/-!
# Composed characters

Characters that stand for a base with a mark, and Hangul syllables, which are composed of
two or three letters.
-/

namespace ProgramGuide.Text

/-- Marks, each with the bases that it joins and what it makes of them. -/
def composites : List (Char × String) :=
  [('\u0300', "AÀEÈIÌOÒUÙaàeèiìoòuùÜǛüǜNǸnǹЕЀИЍеѐиѝĒḔēḕŌṐōṑWẀwẁÂẦâầĂẰăằÊỀêềÔỒôồƠỜơờƯỪưừYỲyỳἀἂ"),
   ('\u0300', "ἁἃἈἊἉἋἐἒἑἓἘἚἙἛἠἢἡἣἨἪἩἫἰἲἱἳἸἺἹἻὀὂὁὃὈὊὉὋὐὒὑὓὙὛὠὢὡὣὨὪὩὫαὰεὲηὴιὶοὸυὺωὼΑᾺΕῈΗῊ᾿῍ϊῒΙῚ"),
   ('\u0300', "῾῝ϋῢΥῪ¨῭ΟῸΩῺ"),
   ('\u0301', "AÁEÉIÍOÓUÚYÝaáeéiíoóuúyýCĆcćLĹlĺNŃnńRŔrŕSŚsśZŹzźÜǗüǘGǴgǵÅǺåǻÆǼæǽØǾøǿ¨΅ΑΆΕΈΗΉΙΊ"),
   ('\u0301', "ΟΌΥΎΩΏϊΐαάεέηήιίϋΰοόυύωώϒϓГЃКЌгѓкќÇḈçḉĒḖēḗÏḮïḯKḰkḱMḾmḿÕṌõṍŌṒōṓPṔpṕŨṸũṹWẂwẃÂẤâấ"),
   ('\u0301', "ĂẮăắÊẾêếÔỐôốƠỚơớƯỨưứἀἄἁἅἈἌἉἍἐἔἑἕἘἜἙἝἠἤἡἥἨἬἩἭἰἴἱἵἸἼἹἽὀὄὁὅὈὌὉὍὐὔὑὕὙὝὠὤὡὥὨὬὩὭ᾿῎῾῞"),
   ('\u0302', "AÂEÊIÎOÔUÛaâeêiîoôuûCĈcĉGĜgĝHĤhĥJĴjĵSŜsŝWŴwŵYŶyŷZẐzẑẠẬạậẸỆẹệỌỘọộ"),
   ('\u0303', "AÃNÑOÕaãnñoõIĨiĩUŨuũVṼvṽÂẪâẫĂẴăẵEẼeẽÊỄêễÔỖôỗƠỠơỡƯỮưữYỸyỹ"),
   ('\u0304', "AĀaāEĒeēIĪiīOŌoōUŪuūÜǕüǖÄǞäǟȦǠȧǡÆǢæǣǪǬǫǭÖȪöȫÕȬõȭȮȰȯȱYȲyȳИӢиӣУӮуӯGḠgḡḶḸḷḹṚṜṛṝαᾱ"),
   ('\u0304', "ΑᾹιῑΙῙυῡΥῩ"),
   ('\u0306', "AĂaăEĔeĕGĞgğIĬiĭOŎoŏUŬuŭУЎИЙийуўЖӁжӂАӐаӑЕӖеӗȨḜȩḝẠẶạặαᾰΑᾸιῐΙῘυῠΥῨ"),
   ('\u0307', "CĊcċEĖeėGĠgġIİZŻzżAȦaȧOȮoȯBḂbḃDḊdḋFḞfḟHḢhḣMṀmṁNṄnṅPṖpṗRṘrṙSṠsṡŚṤśṥŠṦšṧṢṨṣṩTṪtṫ"),
   ('\u0307', "WẆwẇXẊxẋYẎyẏſẛ𐗒𐗉𐗚𐗤"),
   ('\u0308', "AÄEËIÏOÖUÜaäeëiïoöuüyÿYŸΙΪΥΫιϊυϋϒϔЕЁІЇеёіїАӒаӓӘӚәӛЖӜжӝЗӞзӟИӤиӥОӦоӧӨӪөӫЭӬэӭУӰуӱ"),
   ('\u0308', "ЧӴчӵЫӸыӹHḦhḧÕṎõṏŪṺūṻWẄwẅXẌxẍtẗ"),
   ('\u0309', "AẢaảÂẨâẩĂẲăẳEẺeẻÊỂêểIỈiỉOỎoỏÔỔôổƠỞơởUỦuủƯỬưửYỶyỷ"),
   ('\u030A', "AÅaåUŮuůwẘyẙ"),
   ('\u030B', "OŐoőUŰuűУӲуӳ"),
   ('\u030C', "CČcčDĎdďEĚeěLĽlľNŇnňRŘrřSŠsšTŤtťZŽzžAǍaǎIǏiǐOǑoǒUǓuǔÜǙüǚGǦgǧKǨkǩƷǮʒǯjǰHȞhȟ"),
   ('\u030F', "AȀaȁEȄeȅIȈiȉOȌoȍRȐrȑUȔuȕѴѶѵѷ"),
   ('\u0311', "AȂaȃEȆeȇIȊiȋOȎoȏRȒrȓUȖuȗ"),
   ('\u0313', "αἀΑἈεἐΕἘηἠΗἨιἰΙἸοὀΟὈυὐωὠΩὨρῤ"),
   ('\u0314', "αἁΑἉεἑΕἙηἡΗἩιἱΙἹοὁΟὉυὑΥὙωὡΩὩρῥΡῬ"),
   ('\u031B', "OƠoơUƯuư"),
   ('\u0323', "BḄbḅDḌdḍHḤhḥKḲkḳLḶlḷMṂmṃNṆnṇRṚrṛSṢsṣTṬtṭVṾvṿWẈwẉZẒzẓAẠaạEẸeẹIỊiịOỌoọƠỢơợUỤuụƯỰ"),
   ('\u0323', "ưựYỴyỵ"),
   ('\u0324', "UṲuṳ"),
   ('\u0325', "AḀaḁ"),
   ('\u0326', "SȘsșTȚtț"),
   ('\u0327', "CÇcçGĢgģKĶkķLĻlļNŅnņRŖrŗSŞsşTŢtţEȨeȩDḐdḑHḨhḩ"),
   ('\u0328', "AĄaąEĘeęIĮiįUŲuųOǪoǫ"),
   ('\u032D', "DḒdḓEḘeḙLḼlḽNṊnṋTṰtṱUṶuṷ"),
   ('\u032E', "HḪhḫ"),
   ('\u0330', "EḚeḛIḬiḭUṴuṵ"),
   ('\u0331', "BḆbḇDḎdḏKḴkḵLḺlḻNṈnṉRṞrṟTṮtṯZẔzẕhẖ"),
   ('\u0338', "←↚→↛↔↮⇐⇍⇔⇎⇒⇏∃∄∈∉∋∌∣∤∥∦∼≁≃≄≅≇≈≉=≠≡≢≍≭<≮>≯≤≰≥≱≲≴≳≵≶≸≷≹≺⊀≻⊁⊂⊄⊃⊅⊆⊈⊇⊉⊢⊬⊨⊭⊩⊮⊫⊯≼⋠≽⋡⊑⋢"),
   ('\u0338', "⊒⋣⊲⋪⊳⋫⊴⋬⊵⋭"),
   ('\u0342', "ἀἆἁἇἈἎἉἏἠἦἡἧἨἮἩἯἰἶἱἷἸἾἹἿὐὖὑὗὙὟὠὦὡὧὨὮὩὯαᾶ¨῁ηῆ᾿῏ιῖϊῗ῾῟υῦϋῧωῶ"),
   ('\u0345', "ἀᾀἁᾁἂᾂἃᾃἄᾄἅᾅἆᾆἇᾇἈᾈἉᾉἊᾊἋᾋἌᾌἍᾍἎᾎἏᾏἠᾐἡᾑἢᾒἣᾓἤᾔἥᾕἦᾖἧᾗἨᾘἩᾙἪᾚἫᾛἬᾜἭᾝἮᾞἯᾟὠᾠὡᾡὢᾢὣᾣὤᾤὥᾥὦᾦ"),
   ('\u0345', "ὧᾧὨᾨὩᾩὪᾪὫᾫὬᾬὭᾭὮᾮὯᾯὰᾲαᾳάᾴᾶᾷΑᾼὴῂηῃήῄῆῇΗῌὼῲωῳώῴῶῷΩῼ"),
   ('\u0653', "\u0627\u0622"),
   ('\u0654', "\u0627\u0623\u0648\u0624\u064A\u0626\u06D5\u06C0\u06C1\u06C2\u06D2\u06D3"),
   ('\u0655', "\u0627\u0625"),
   ('\u093C', "नऩरऱळऴ"),
   ('\u09BE', "\u09C7\u09CB"),
   ('\u09D7', "\u09C7\u09CC"),
   ('\u0B3E', "\u0B47\u0B4B"),
   ('\u0B56', "\u0B47\u0B48"),
   ('\u0B57', "\u0B47\u0B4C"),
   ('\u0BBE', "\u0BC6\u0BCA\u0BC7\u0BCB"),
   ('\u0BD7', "ஒஔ\u0BC6\u0BCC"),
   ('\u0C56', "\u0C46\u0C48"),
   ('\u0CC2', "\u0CC6\u0CCA"),
   ('\u0CD5', "\u0CBF\u0CC0\u0CC6\u0CC7\u0CCA\u0CCB"),
   ('\u0CD6', "\u0CC6\u0CC8"),
   ('\u0D3E', "\u0D46\u0D4A\u0D47\u0D4B"),
   ('\u0D57', "\u0D46\u0D4C"),
   ('\u0DCA', "\u0DD9\u0DDA\u0DDC\u0DDD"),
   ('\u0DCF', "\u0DD9\u0DDC"),
   ('\u0DDF', "\u0DD9\u0DDE"),
   ('\u102E', "ဥဦ"),
   ('\u1B35', "ᬅᬆᬇᬈᬉᬊᬋᬌᬍᬎᬑᬒ\u1B3A\u1B3B\u1B3C\u1B3D\u1B3E\u1B40\u1B3F\u1B41\u1B42\u1B43"),
   ('\u3099', "かがきぎくぐけげこごさざしじすずせぜそぞただちぢつづてでとどはばひびふぶへべほぼうゔゝゞカガキギクグケゲコゴサザシジスズセゼソゾタダチヂツヅテデトドハバヒビ"),
   ('\u3099', "フブヘベホボウヴワヷヰヸヱヹヲヺヽヾ"),
   ('\u309A', "はぱひぴふぷへぺほぽハパヒピフプヘペホポ"),
   ('𑂺', "𑂙𑂚𑂛𑂜𑂥𑂫"),
   ('𑄧', "𑄱𑄮𑄲𑄯"),
   ('𑌾', "𑍇𑍋"),
   ('𑍗', "𑍇𑍌"),
   ('𑎸', "𑏅𑎸"),
   ('𑎻', "𑎄𑎅"),
   ('𑏂', "𑎋𑎎𑏅𑏂"),
   ('𑏉', "𑎂𑎃𑎐𑎑𑏅𑏉"),
   ('𑒰', "𑒹𑒼"),
   ('𑒺', "𑒹𑒻"),
   ('𑒽', "𑒹𑒾"),
   ('𑖯', "𑖸𑖺𑖹𑖻"),
   ('𑤰', "𑤵𑤸"),
   ('𖄞', "𖄡𖄞"),
   ('𖄟', "𖄦𖄩𖄤𖄡𖄦𖄢𖄧"),
   ('𖄠', "𖄨𖄡𖄨"),
   ('𖄩', "𖄡𖄩"),
   ('𖵧', "𖵨𖵧𖵣𖵩𖵩𖵪")]

/-! ## Hangul -/

def leadingJamo : Nat := 0x1100

def vowelJamo : Nat := 0x1161

def trailingJamo : Nat := 0x11A7

def firstSyllable : Nat := 0xAC00

def leadingCount : Nat := 19

def vowelCount : Nat := 21

def trailingCount : Nat := 28

def isSyllable (c : Char) : Bool :=
  firstSyllable ≤ c.toNat &&
    c.toNat < firstSyllable + leadingCount * vowelCount * trailingCount

def composeSyllable? (a b : Char) : Option Char :=
  let leading := a.toNat - leadingJamo
  let vowel := b.toNat - vowelJamo
  let trailing := b.toNat - trailingJamo
  if leadingJamo ≤ a.toNat && leading < leadingCount &&
      vowelJamo ≤ b.toNat && vowel < vowelCount then
    some (Char.ofNat (firstSyllable + (leading * vowelCount + vowel) * trailingCount))
  else if isSyllable a && (a.toNat - firstSyllable) % trailingCount == 0 &&
      trailingJamo < b.toNat && trailing < trailingCount then
    some (Char.ofNat (a.toNat + trailing))
  else none

def syllableParts (c : Char) : Char × Char :=
  let index := c.toNat - firstSyllable
  let trailing := index % trailingCount
  if trailing != 0 then
    (Char.ofNat (c.toNat - trailing), Char.ofNat (trailingJamo + trailing))
  else
    (Char.ofNat (leadingJamo + index / (vowelCount * trailingCount)),
     Char.ofNat (vowelJamo + index / trailingCount % vowelCount))

/-! ## All characters -/

/-- What stands behind the base in a row of bases and composites. -/
def compositeIn? (base : Char) : List Char → Option Char
  | b :: composite :: rest =>
      if b == base then some composite else compositeIn? base rest
  | _ => none

def baseIn? (composite : Char) : List Char → Option Char
  | base :: c :: rest => if c == composite then some base else baseIn? composite rest
  | _ => none

def compose? (a b : Char) : Option Char :=
  match composites.findSome? fun (mark, row) =>
    if mark == b then compositeIn? a row.toList else none with
  | some composite => some composite
  | none => composeSyllable? a b

def parts? (c : Char) : Option (Char × Char) :=
  if isSyllable c then some (syllableParts c)
  else composites.findSome? fun (mark, row) => (baseIn? c row.toList).map fun b => (b, mark)

end ProgramGuide.Text
