import DocSchema.Unicode.Age
import DocSchema.Unicode.Segmentation

/-!
# Properties by name

The character properties that a pattern can ask for, and how their names are read.  Names are
compared loosely: letter case, blanks, hyphens and underscores do not count, nor does a leading
`is`.

* `Property.members`: the characters that have a property.
* `Property.ofName?`: `\p{Greek}`, `\p{Lu}`, `\p{Alphabetic}`.
* `Property.ofPair?`: `\p{sc=Greek}`, `\p{gc=Lu}`, `\p{age=6.0}`, `\p{wb=Numeric}`.
-/

namespace DocSchema.Unicode

/-- A set of characters that has a name. -/
inductive Property where
  | any
  | ascii
  | assigned
  | category (categories : List Category)
  | script (code : String)
  | scriptExtension (code : String)
  | age (version : Nat)
  | graphemeBreak (value : GraphemeBreak)
  | wordBreak (value : WordBreak)
  | sentenceBreak (value : SentenceBreak)
  | binary (property : BinaryProperty)
  deriving DecidableEq, Repr

namespace Property

/-- The code points that have a property. -/
def members : Property → RangeSet
  | any => .full
  | ascii => .range 0 127
  | assigned => (Category.members [.unassigned]).compl
  | category categories => Category.members categories
  | script code => Script.members code
  | scriptExtension code => Script.extendedMembers code
  | age version => Age.members version
  | graphemeBreak value => value.members
  | wordBreak value => value.members
  | sentenceBreak value => value.members
  | binary property => property.members

/-! ## Names -/

/-- The form in which names are compared.  Characters beyond ASCII are dropped; `isc` keeps its
`is`, for without it the name would be the one of another property. -/
def normalize (name : String) : String :=
  let chars := name.toList
  let (is, body) := match chars with
    | a :: b :: rest =>
      if (a = 'i' ∨ a = 'I') ∧ (b = 's' ∨ b = 'S') then (true, rest) else (false, chars)
    | _ => (false, chars)
  let kept := body.filter fun c => c ≠ ' ' && c ≠ '_' && c ≠ '-' && decide (c.toNat < 128)
  let text := String.ofList (kept.map Char.toLower)
  if is && text = "c" then "isc" else text

/-- The names of the general categories and of their groups.  Surrogates are no characters, so their
category has no name; still the group of all that is no visible character runs across them. -/
def categoryNames : List (List String × List Category) := [
  (["lu", "uppercaseletter"], [.uppercaseLetter]),
  (["ll", "lowercaseletter"], [.lowercaseLetter]),
  (["lt", "titlecaseletter"], [.titlecaseLetter]),
  (["lc", "casedletter"], [.uppercaseLetter, .lowercaseLetter, .titlecaseLetter]),
  (["lm", "modifierletter"], [.modifierLetter]),
  (["lo", "otherletter"], [.otherLetter]),
  (["l", "letter"],
    [.uppercaseLetter, .lowercaseLetter, .titlecaseLetter, .modifierLetter, .otherLetter]),
  (["mn", "nonspacingmark"], [.nonspacingMark]),
  (["mc", "spacingmark"], [.spacingMark]),
  (["me", "enclosingmark"], [.enclosingMark]),
  (["m", "mark", "combiningmark"], [.nonspacingMark, .spacingMark, .enclosingMark]),
  (["nd", "decimalnumber", "digit"], [.decimalNumber]),
  (["nl", "letternumber"], [.letterNumber]),
  (["no", "othernumber"], [.otherNumber]),
  (["n", "number"], [.decimalNumber, .letterNumber, .otherNumber]),
  (["pc", "connectorpunctuation"], [.connectorPunctuation]),
  (["pd", "dashpunctuation"], [.dashPunctuation]),
  (["ps", "openpunctuation"], [.openPunctuation]),
  (["pe", "closepunctuation"], [.closePunctuation]),
  (["pi", "initialpunctuation"], [.initialPunctuation]),
  (["pf", "finalpunctuation"], [.finalPunctuation]),
  (["po", "otherpunctuation"], [.otherPunctuation]),
  (["p", "punct", "punctuation"],
    [.connectorPunctuation, .dashPunctuation, .openPunctuation, .closePunctuation,
      .initialPunctuation, .finalPunctuation, .otherPunctuation]),
  (["sm", "mathsymbol"], [.mathSymbol]),
  (["sc", "currencysymbol"], [.currencySymbol]),
  (["sk", "modifiersymbol"], [.modifierSymbol]),
  (["so", "othersymbol"], [.otherSymbol]),
  (["s", "symbol"], [.mathSymbol, .currencySymbol, .modifierSymbol, .otherSymbol]),
  (["zs", "spaceseparator"], [.spaceSeparator]),
  (["zl", "lineseparator"], [.lineSeparator]),
  (["zp", "paragraphseparator"], [.paragraphSeparator]),
  (["z", "separator"], [.spaceSeparator, .lineSeparator, .paragraphSeparator]),
  (["cc", "cntrl", "control"], [.control]),
  (["cf", "format"], [.format]),
  (["co", "privateuse"], [.privateUse]),
  (["cn", "unassigned"], [.unassigned]),
  (["c", "other"], [.control, .format, .surrogate, .privateUse, .unassigned])]

/-- The property that a normalized category name stands for. -/
def ofCategoryName? (name : String) : Option Property :=
  match name with
  | "any" => some any
  | "ascii" => some ascii
  | "assigned" => some assigned
  | _ => (categoryNames.find? fun (spellings, _) => spellings.contains name).map
    fun (_, categories) => category categories

/-- The property with a name of its own: a binary property, else a category, else a script. -/
def ofName? (name : String) : Option Property :=
  let name := normalize name
  match BinaryProperty.ofName? name with
  | some property => some (binary property)
  | none => (ofCategoryName? name).or ((Script.ofName? name).map script)

/-- The property that holds of the characters whose value for a property with many values is the
given one. -/
def ofPair? (name value : String) : Option Property :=
  let value := normalize value
  match normalize name with
  | "gc" | "generalcategory" => ofCategoryName? value
  | "sc" | "script" => (Script.ofName? value).map script
  | "scx" | "scriptextensions" => (Script.ofName? value).map scriptExtension
  | "age" => (Age.ofName? value).map age
  | "gcb" | "graphemeclusterbreak" => (GraphemeBreak.ofName? value).map graphemeBreak
  | "wb" | "wordbreak" => (WordBreak.ofName? value).map wordBreak
  | "sb" | "sentencebreak" => (SentenceBreak.ofName? value).map sentenceBreak
  | _ => none

end Property

/-! ## Sets with a name of their own -/

/-- Decimal digits of any script. -/
def digitSet : RangeSet :=
  Category.members [.decimalNumber]

/-- What words are made of: letters, marks, decimal digits, connectors and join controls. -/
def wordSet : RangeSet :=
  alphabeticSet ∪ Tables.joinControl ∪ Category.members
    [.nonspacingMark, .spacingMark, .enclosingMark, .decimalNumber, .connectorPunctuation]

/-- Digits and other numbers. -/
def numberSet : RangeSet :=
  Category.members [.decimalNumber, .letterNumber, .otherNumber]

/-- Whether a character is white space. -/
def isSpace (c : Char) : Bool :=
  Tables.whiteSpace.contains c.toNat

/-- Whether a character can stand in a word. -/
def isWord (c : Char) : Bool :=
  wordSet.contains c.toNat

end DocSchema.Unicode
