import SymbolIndex.Text.Blank
import SymbolIndex.Text.GeneralCategory
import SymbolIndex.Text.Property.Table
import SymbolIndex.Text.WritingSystem

/-!
# Character properties

The yes-or-no properties of characters, as sets, and the search for a set by the name that a
pattern gives: a property, a general category or a script, each under its loose name.
-/

namespace SymbolIndex.Text

namespace Property

open GeneralCategory

def whiteSpace : CodeSet := .table whiteSpaceTable

def alphabetic : CodeSet :=
  .unions [letter, .table letterNumberTable, .table otherAlphabeticTable]

def lowercase : CodeSet := .union (.table lowercaseLetterTable) (.table otherLowercaseTable)

def uppercase : CodeSet := .union (.table uppercaseLetterTable) (.table otherUppercaseTable)

def cased : CodeSet := .unions [lowercase, uppercase, .table titlecaseLetterTable]

/-- Characters that are skipped when the case of their neighbours is looked at. -/
def caseIgnorable : CodeSet :=
  .unions [.table nonspacingMarkTable, .table enclosingMarkTable, .table formatTable,
    .table modifierLetterTable, .table modifierSymbolTable, .table otherCaseIgnorableTable]

/-- Characters that belong to the grapheme of the one before. -/
def graphemeExtend : CodeSet :=
  .unions [.table nonspacingMarkTable, .table enclosingMarkTable, .table otherGraphemeExtendTable]

/-- Characters that stand on their own in a grapheme. -/
def graphemeBase : CodeSet :=
  .diff assigned (.unions [.table controlTable, .table formatTable, .table privateUseTable,
    .table lineSeparatorTable, .table paragraphSeparatorTable, graphemeExtend])

def idStart : CodeSet :=
  .diff (.unions [letter, .table letterNumberTable, .table otherIdStartTable])
    (.table letterNotIdStartTable)

def idContinue : CodeSet :=
  .unions [idStart, .table nonspacingMarkTable, .table spacingMarkTable,
    .table decimalNumberTable, .table connectorPunctuationTable, .table otherIdContinueTable]

/-- Characters that show on paper: all but controls, format characters, separators other than the
space, and code points that are for private use or unassigned. -/
def printable : CodeSet :=
  .union (.single 0x20) (.unions [letter, mark, number, punctuation, symbol])

/-- Characters of words: alphabetic ones, marks, digits, connectors and the two joiners. -/
def word : CodeSet :=
  .unions [alphabetic, mark, .table decimalNumberTable, .table connectorPunctuationTable,
    .table joinControlTable]

/-- Each property under its loose names. -/
def all : List (List String × CodeSet) :=
  [(["alphabetic", "alpha"], alphabetic),
   (["asciihexdigit", "ahex"], .table asciiHexDigitTable),
   (["bidicontrol", "bidic"], .table bidiControlTable),
   (["bidimirrored", "bidim"], .table bidiMirroredTable),
   (["cased"], cased),
   (["caseignorable", "ci"], caseIgnorable),
   (["dash"], .table dashTable),
   (["defaultignorablecodepoint", "di"], .table defaultIgnorableCodePointTable),
   (["deprecated", "dep"], .table deprecatedTable),
   (["diacritic", "dia"], .table diacriticTable),
   (["emoji"], .table emojiTable),
   (["emojicomponent", "ecomp"], .table emojiComponentTable),
   (["emojimodifier", "emod"], .table emojiModifierTable),
   (["emojimodifierbase", "ebase"], .table emojiModifierBaseTable),
   (["emojipresentation", "epres"], .table emojiPresentationTable),
   (["extendedpictographic", "extpict"], .table extendedPictographicTable),
   (["extender", "ext"], .table extenderTable),
   (["graphemebase", "grbase"], graphemeBase),
   (["graphemeextend", "grext"], graphemeExtend),
   (["hexdigit", "hex"], .table hexDigitTable),
   (["idcontinue", "idc"], idContinue),
   (["idstart", "ids"], idStart),
   (["ideographic", "ideo"], .table ideographicTable),
   (["idsbinaryoperator", "idsb"], .table idsBinaryOperatorTable),
   (["idstrinaryoperator", "idst"], .table idsTrinaryOperatorTable),
   (["joincontrol", "joinc"], .table joinControlTable),
   (["logicalorderexception", "loe"], .table logicalOrderExceptionTable),
   (["lowercase", "lower"], lowercase),
   (["math"], .table mathTable),
   (["noncharactercodepoint", "nchar"], .table noncharacterCodePointTable),
   (["patternsyntax", "patsyn"], .table patternSyntaxTable),
   (["patternwhitespace", "patws"], .table patternWhiteSpaceTable),
   (["quotationmark", "qmark"], .table quotationMarkTable),
   (["radical"], .table radicalTable),
   (["regionalindicator", "ri"], .table regionalIndicatorTable),
   (["sentenceterminal", "sterm"], .table sentenceTerminalTable),
   (["softdotted", "sd"], .table softDottedTable),
   (["terminalpunctuation", "term"], .table terminalPunctuationTable),
   (["unifiedideograph", "uideo"], .table unifiedIdeographTable),
   (["uppercase", "upper"], uppercase),
   (["variationselector", "vs"], .table variationSelectorTable),
   (["whitespace", "wspace", "space"], whiteSpace),
   (["xidcontinue", "xidc"], .diff idContinue (.table idContinueNotXTable)),
   (["xidstart", "xids"], .diff idStart (.table idStartNotXTable))]

def named? (name : String) : Option CodeSet :=
  (all.find? (·.1.contains name)).map (·.2)

end Property

namespace WritingSystem

def named? (name : String) : Option WritingSystem := all.find? (·.names.contains name)

/-- The characters that are used with the script, whatever script they have themselves. -/
def extensions (w : WritingSystem) : CodeSet :=
  .diff (.union (.table w.members) (.table w.borrowed)) (.table w.ceded)

end WritingSystem

namespace Property

/-- A name as names are compared: ASCII only, in lower case, without blanks, hyphens, low lines
and a leading `is`. The one name that is lost by that, `isc`, keeps it. -/
def looseName (name : List Char) : String :=
  let strip (cs : List Char) : List Char :=
    (cs.filter fun c => c.toNat < 0x80 && c != ' ' && c != '_' && c != '-').map Char.toLower
  match name with
  | i :: s :: rest =>
    if i.toLower = 'i' && s.toLower = 's' then
      let stripped := strip rest
      if stripped = ['c'] then "isc" else String.ofList stripped
    else String.ofList (strip name)
  | _ => String.ofList (strip name)

/-- The set that a single name stands for: a property if there is one of that name, else a general
category, else a script. -/
def setNamed? (name : List Char) : Option CodeSet :=
  let loose := looseName name
  let property := if loose = "cf" || loose = "sc" || loose = "lc" then none else named? loose
  property <|> GeneralCategory.named? loose <|>
    (WritingSystem.named? loose).map fun w => .table w.members

/-- The set that a name and a value stand for: a general category, a script or the extensions of
a script. -/
def setWithValue? (name value : List Char) : Option CodeSet :=
  let value := looseName value
  match looseName name with
  | "generalcategory" | "gc" => GeneralCategory.named? value
  | "script" | "sc" => (WritingSystem.named? value).map fun w => .table w.members
  | "scriptextensions" | "scx" => (WritingSystem.named? value).map (·.extensions)
  | _ => none

end Property

end SymbolIndex.Text
