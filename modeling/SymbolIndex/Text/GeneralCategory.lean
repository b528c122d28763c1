import SymbolIndex.Text.CodeSet
import SymbolIndex.Text.GeneralCategory.Table

/-!
# General categories

Every character has one general category. The groups of categories and the unassigned category are
expressions over the tables, and `named?` finds a category or group by any of its names.
-/

namespace SymbolIndex.Text.GeneralCategory

def letter : CodeSet :=
  .unions [.table uppercaseLetterTable, .table lowercaseLetterTable, .table titlecaseLetterTable,
    .table modifierLetterTable, .table otherLetterTable]

/-- Letters with an upper, lower or title case. -/
def casedLetter : CodeSet :=
  .unions [.table uppercaseLetterTable, .table lowercaseLetterTable, .table titlecaseLetterTable]

def mark : CodeSet :=
  .unions [.table nonspacingMarkTable, .table spacingMarkTable, .table enclosingMarkTable]

def number : CodeSet :=
  .unions [.table decimalNumberTable, .table letterNumberTable, .table otherNumberTable]

def punctuation : CodeSet :=
  .unions [.table connectorPunctuationTable, .table dashPunctuationTable,
    .table openPunctuationTable, .table closePunctuationTable, .table initialPunctuationTable,
    .table finalPunctuationTable, .table otherPunctuationTable]

def symbol : CodeSet :=
  .unions [.table mathSymbolTable, .table currencySymbolTable, .table modifierSymbolTable,
    .table otherSymbolTable]

def separator : CodeSet :=
  .unions [.table spaceSeparatorTable, .table lineSeparatorTable, .table paragraphSeparatorTable]

/-- The code points of the tables. -/
def assigned : CodeSet :=
  .unions [letter, mark, number, punctuation, symbol, separator, .table controlTable,
    .table formatTable, .table privateUseTable]

/-- Code points without a character. -/
def unassigned : CodeSet := .complement assigned

/-- Controls, format characters, code points for private use and unassigned ones. -/
def other : CodeSet :=
  .unions [.table controlTable, .table formatTable, .table privateUseTable, unassigned]

/-- Each category and group under its loose names. -/
def all : List (List String × CodeSet) :=
  [(["c", "other"], other),
   (["cc", "control", "cntrl"], .table controlTable),
   (["cf", "format"], .table formatTable),
   (["cn", "unassigned"], unassigned),
   (["co", "privateuse"], .table privateUseTable),
   (["l", "letter"], letter),
   (["lc", "casedletter"], casedLetter),
   (["ll", "lowercaseletter"], .table lowercaseLetterTable),
   (["lm", "modifierletter"], .table modifierLetterTable),
   (["lo", "otherletter"], .table otherLetterTable),
   (["lt", "titlecaseletter"], .table titlecaseLetterTable),
   (["lu", "uppercaseletter"], .table uppercaseLetterTable),
   (["m", "mark", "combiningmark"], mark),
   (["mc", "spacingmark"], .table spacingMarkTable),
   (["me", "enclosingmark"], .table enclosingMarkTable),
   (["mn", "nonspacingmark"], .table nonspacingMarkTable),
   (["n", "number"], number),
   (["nd", "decimalnumber", "digit"], .table decimalNumberTable),
   (["nl", "letternumber"], .table letterNumberTable),
   (["no", "othernumber"], .table otherNumberTable),
   (["p", "punctuation", "punct"], punctuation),
   (["pc", "connectorpunctuation"], .table connectorPunctuationTable),
   (["pd", "dashpunctuation"], .table dashPunctuationTable),
   (["pe", "closepunctuation"], .table closePunctuationTable),
   (["pf", "finalpunctuation"], .table finalPunctuationTable),
   (["pi", "initialpunctuation"], .table initialPunctuationTable),
   (["po", "otherpunctuation"], .table otherPunctuationTable),
   (["ps", "openpunctuation"], .table openPunctuationTable),
   (["s", "symbol"], symbol),
   (["sc", "currencysymbol"], .table currencySymbolTable),
   (["sk", "modifiersymbol"], .table modifierSymbolTable),
   (["sm", "mathsymbol"], .table mathSymbolTable),
   (["so", "othersymbol"], .table otherSymbolTable),
   (["z", "separator"], separator),
   (["zl", "lineseparator"], .table lineSeparatorTable),
   (["zp", "paragraphseparator"], .table paragraphSeparatorTable),
   (["zs", "spaceseparator"], .table spaceSeparatorTable),
   (["any"], .ranges [(0, 0x10FFFF)]),
   (["ascii"], .ranges [(0, 0x7F)]),
   (["assigned"], assigned)]

def named? (name : String) : Option CodeSet :=
  (all.find? (·.1.contains name)).map (·.2)

end SymbolIndex.Text.GeneralCategory
