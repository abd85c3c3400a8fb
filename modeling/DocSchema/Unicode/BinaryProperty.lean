import DocSchema.Unicode.CaseFolding
import DocSchema.Unicode.Category
import DocSchema.Unicode.PropertyTables

/-!
# Binary properties

The properties that a character has or has not.  Some are listed, the others are derived from the
general category and from lists, by the standard's own definitions.
-/

namespace DocSchema.Unicode

/-! ## Derived properties -/

/-- Letters of any kind. -/
def letterSet : RangeSet :=
  Category.members
    [.uppercaseLetter, .lowercaseLetter, .titlecaseLetter, .modifierLetter, .otherLetter]

/-- Letters, letter numbers, and the others listed as alphabetic. -/
def alphabeticSet : RangeSet :=
  letterSet ∪ Category.members [.letterNumber] ∪ Tables.otherAlphabetic

/-- Lowercase letters and the others listed as lowercase. -/
def lowercaseSet : RangeSet :=
  Category.members [.lowercaseLetter] ∪ Tables.otherLowercase

/-- Uppercase letters and the others listed as uppercase. -/
def uppercaseSet : RangeSet :=
  Category.members [.uppercaseLetter] ∪ Tables.otherUppercase

/-- Uppercase and titlecase. -/
def raisedCaseSet : RangeSet :=
  uppercaseSet ∪ Category.members [.titlecaseLetter]

/-- Lowercase, uppercase or titlecase. -/
def casedSet : RangeSet :=
  lowercaseSet ∪ raisedCaseSet

/-- What casing looks through when it asks what stands before or after a letter. -/
def caseIgnorableSet : RangeSet :=
  Category.members [.nonspacingMark, .enclosingMark, .format, .modifierLetter, .modifierSymbol]
    ∪ Tables.caseIgnorablePunctuation

/-- What lowercasing changes: upper and title case with a partner, and the dotted capital i. -/
def loweredSet : RangeSet :=
  (CaseFolding.partnered ∩ raisedCaseSet) ∪ .single 0x130

/-- What uppercasing changes: lower case with a partner, and what expands. -/
def raisedSet : RangeSet :=
  (CaseFolding.partnered ∩ lowercaseSet) ∪ Tables.expandsWhenUppercased

/-- What titlecasing changes: as uppercasing, but for the characters that differ between the two. -/
def titledSet : RangeSet :=
  (raisedSet \ Tables.uppercaseOnly) ∪ Tables.titlecaseOnly

/-- What folding changes: as lowercasing, but for the characters that differ between the two. -/
def foldedSet : RangeSet :=
  (loweredSet \ Tables.lowersOnly) ∪ Tables.foldsOnly

/-- Characters that belong to pattern languages and never to identifiers. -/
def patternSet : RangeSet :=
  Tables.patternSyntax ∪ Tables.patternWhiteSpace

/-- What may start an identifier. -/
def idStartSet : RangeSet :=
  (letterSet ∪ Category.members [.letterNumber] ∪ Tables.otherIdStart) \ patternSet

/-- What may stand in an identifier behind its start. -/
def idContinueSet : RangeSet :=
  let behind :=
    Category.members [.nonspacingMark, .spacingMark, .decimalNumber, .connectorPunctuation]
  idStartSet ∪ ((behind ∪ Tables.otherIdContinue) \ patternSet)

/-- Marks that extend the grapheme before them. -/
def graphemeExtendSet : RangeSet :=
  Category.members [.nonspacingMark, .enclosingMark] ∪ Tables.otherGraphemeExtend

/-- What can stand at the start of a grapheme: all but controls, code points without a character,
line ends and extending marks. -/
def graphemeBaseSet : RangeSet :=
  let never := Category.members [.control, .format, .surrogate, .privateUse, .unassigned,
    .lineSeparator, .paragraphSeparator]
  RangeSet.full \ (never ∪ graphemeExtendSet)

/-! ## Properties by name -/

/-- A property that a character has or has not. -/
inductive BinaryProperty where
  | asciiHexDigit
  | alphabetic
  | bidiControl
  | bidiMirrored
  | caseIgnorable
  | cased
  | changesWhenCasefolded
  | changesWhenCasemapped
  | changesWhenLowercased
  | changesWhenTitlecased
  | changesWhenUppercased
  | dash
  | defaultIgnorable
  | deprecated
  | diacritic
  | emoji
  | emojiComponent
  | emojiModifier
  | emojiModifierBase
  | emojiPresentation
  | extendedPictographic
  | extender
  | graphemeBase
  | graphemeExtend
  | graphemeLink
  | hexDigit
  | hyphen
  | idCompatMathContinue
  | idCompatMathStart
  | idContinue
  | idStart
  | ideographic
  | idsBinaryOperator
  | idsTrinaryOperator
  | idsUnaryOperator
  | joinControl
  | logicalOrderException
  | lowercase
  | math
  | modifierCombiningMark
  | noncharacter
  | otherAlphabetic
  | otherDefaultIgnorable
  | otherGraphemeExtend
  | otherIdContinue
  | otherIdStart
  | otherLowercase
  | otherMath
  | otherUppercase
  | patternSyntax
  | patternWhiteSpace
  | prependedConcatenationMark
  | quotationMark
  | radical
  | regionalIndicator
  | sentenceTerminal
  | softDotted
  | terminalPunctuation
  | unifiedIdeograph
  | uppercase
  | variationSelector
  | whiteSpace
  | xidContinue
  | xidStart
  deriving DecidableEq, Repr

namespace BinaryProperty

/-- The code points that have a property. -/
def members : BinaryProperty → RangeSet
  | asciiHexDigit => .ofRanges [(0x30, 0x39), (0x41, 0x46), (0x61, 0x66)]
  | alphabetic => alphabeticSet
  | bidiControl => Tables.bidiControl
  | bidiMirrored => Tables.bidiMirrored
  | caseIgnorable => caseIgnorableSet
  | cased => casedSet
  | changesWhenCasefolded => foldedSet
  | changesWhenCasemapped => loweredSet ∪ raisedSet ∪ titledSet
  | changesWhenLowercased => loweredSet
  | changesWhenTitlecased => titledSet
  | changesWhenUppercased => raisedSet
  | dash => Tables.dash
  | defaultIgnorable => Tables.defaultIgnorable
  | deprecated => Tables.deprecated
  | diacritic => Tables.diacritic
  | emoji => Tables.emoji
  | emojiComponent => Tables.emojiComponent
  | emojiModifier => Tables.emojiModifier
  | emojiModifierBase => Tables.emojiModifierBase
  | emojiPresentation => Tables.emojiPresentation
  | extendedPictographic => Tables.extendedPictographic
  | extender => Tables.extender
  | graphemeBase => graphemeBaseSet
  | graphemeExtend => graphemeExtendSet
  | graphemeLink => Tables.graphemeLink
  | hexDigit => Tables.hexDigit
  | hyphen => Tables.hyphen
  | idCompatMathContinue => Tables.idCompatMathContinue
  | idCompatMathStart => Tables.idCompatMathStart
  | idContinue => idContinueSet
  | idStart => idStartSet
  | ideographic => Tables.ideographic
  | idsBinaryOperator => Tables.idsBinaryOperator
  | idsTrinaryOperator => Tables.idsTrinaryOperator
  | idsUnaryOperator => Tables.idsUnaryOperator
  | joinControl => Tables.joinControl
  | logicalOrderException => Tables.logicalOrderException
  | lowercase => lowercaseSet
  | math => Category.members [.mathSymbol] ∪ Tables.otherMath
  | modifierCombiningMark => Tables.modifierCombiningMark
  | noncharacter => Tables.noncharacter
  | otherAlphabetic => Tables.otherAlphabetic
  | otherDefaultIgnorable => Tables.otherDefaultIgnorable
  | otherGraphemeExtend => Tables.otherGraphemeExtend
  | otherIdContinue => Tables.otherIdContinue
  | otherIdStart => Tables.otherIdStart
  | otherLowercase => Tables.otherLowercase
  | otherMath => Tables.otherMath
  | otherUppercase => Tables.otherUppercase
  | patternSyntax => Tables.patternSyntax
  | patternWhiteSpace => Tables.patternWhiteSpace
  | prependedConcatenationMark => Tables.prependedConcatenationMark
  | quotationMark => Tables.quotationMark
  | radical => Tables.radical
  | regionalIndicator => Tables.regionalIndicator
  | sentenceTerminal => Tables.sentenceTerminal
  | softDotted => Tables.softDotted
  | terminalPunctuation => Tables.terminalPunctuation
  | unifiedIdeograph => Tables.unifiedIdeograph
  | uppercase => uppercaseSet
  | variationSelector => Tables.variationSelector
  | whiteSpace => Tables.whiteSpace
  | xidContinue => idContinueSet \ Tables.identifierPartLost
  | xidStart => idStartSet \ Tables.identifierStartLost

/-- The names of the properties, in lower case and without separators. -/
def names : List (List String × BinaryProperty) := [
  (["ahex", "asciihexdigit"], asciiHexDigit),
  (["alpha", "alphabetic"], alphabetic),
  (["bidic", "bidicontrol"], bidiControl),
  (["bidim", "bidimirrored"], bidiMirrored),
  (["ci", "caseignorable"], caseIgnorable),
  (["cased"], cased),
  (["cwcf", "changeswhencasefolded"], changesWhenCasefolded),
  (["cwcm", "changeswhencasemapped"], changesWhenCasemapped),
  (["cwl", "changeswhenlowercased"], changesWhenLowercased),
  (["cwt", "changeswhentitlecased"], changesWhenTitlecased),
  (["cwu", "changeswhenuppercased"], changesWhenUppercased),
  (["dash"], dash),
  (["di", "defaultignorablecodepoint"], defaultIgnorable),
  (["dep", "deprecated"], deprecated),
  (["dia", "diacritic"], diacritic),
  (["emoji"], emoji),
  (["ecomp", "emojicomponent"], emojiComponent),
  (["emod", "emojimodifier"], emojiModifier),
  (["ebase", "emojimodifierbase"], emojiModifierBase),
  (["epres", "emojipresentation"], emojiPresentation),
  (["extpict", "extendedpictographic"], extendedPictographic),
  (["ext", "extender"], extender),
  (["grbase", "graphemebase"], graphemeBase),
  (["grext", "graphemeextend"], graphemeExtend),
  (["grlink", "graphemelink"], graphemeLink),
  (["hex", "hexdigit"], hexDigit),
  (["hyphen"], hyphen),
  (["idcompatmathcontinue"], idCompatMathContinue),
  (["idcompatmathstart"], idCompatMathStart),
  (["idc", "idcontinue"], idContinue),
  (["ids", "idstart"], idStart),
  (["ideo", "ideographic"], ideographic),
  (["idsb", "idsbinaryoperator"], idsBinaryOperator),
  (["idst", "idstrinaryoperator"], idsTrinaryOperator),
  (["idsu", "idsunaryoperator"], idsUnaryOperator),
  (["joinc", "joincontrol"], joinControl),
  (["loe", "logicalorderexception"], logicalOrderException),
  (["lower", "lowercase"], lowercase),
  (["math"], math),
  (["mcm", "modifiercombiningmark"], modifierCombiningMark),
  (["nchar", "noncharactercodepoint"], noncharacter),
  (["oalpha", "otheralphabetic"], otherAlphabetic),
  (["odi", "otherdefaultignorablecodepoint"], otherDefaultIgnorable),
  (["ogrext", "othergraphemeextend"], otherGraphemeExtend),
  (["oidc", "otheridcontinue"], otherIdContinue),
  (["oids", "otheridstart"], otherIdStart),
  (["olower", "otherlowercase"], otherLowercase),
  (["omath", "othermath"], otherMath),
  (["oupper", "otheruppercase"], otherUppercase),
  (["patsyn", "patternsyntax"], patternSyntax),
  (["patws", "patternwhitespace"], patternWhiteSpace),
  (["pcm", "prependedconcatenationmark"], prependedConcatenationMark),
  (["qmark", "quotationmark"], quotationMark),
  (["radical"], radical),
  (["ri", "regionalindicator"], regionalIndicator),
  (["sterm", "sentenceterminal"], sentenceTerminal),
  (["sd", "softdotted"], softDotted),
  (["term", "terminalpunctuation"], terminalPunctuation),
  (["uideo", "unifiedideograph"], unifiedIdeograph),
  (["upper", "uppercase"], uppercase),
  (["vs", "variationselector"], variationSelector),
  (["wspace", "whitespace", "space"], whiteSpace),
  (["xidc", "xidcontinue"], xidContinue),
  (["xids", "xidstart"], xidStart)]

/-- The property with a name. -/
def ofName? (name : String) : Option BinaryProperty :=
  (names.find? fun (spellings, _) => spellings.contains name).map Prod.snd

end BinaryProperty

end DocSchema.Unicode
