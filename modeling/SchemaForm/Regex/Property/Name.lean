import SchemaForm.Regex.Property.Segment

/-!
# Names of properties

The sets of characters that properties name: a property without a value, a
general category, a script, or a property with a value.  Names are compared
without case, blanks, hyphens and underscores.
-/

namespace SchemaForm
namespace Regex
namespace Property

open Text (Charset Edition)
open Derived (db)

/-! ## Categories -/

/-- Groups of general categories by their short names. -/
def categoryGroup? (name : String) : Option (List Text.Category) :=
  match name with
  | "l" | "letter" =>
      some [.uppercaseLetter, .lowercaseLetter, .titlecaseLetter, .modifierLetter, .otherLetter]
  | "lc" | "casedletter" => some [.uppercaseLetter, .lowercaseLetter, .titlecaseLetter]
  | "m" | "mark" | "combiningmark" => some [.nonspacingMark, .spacingMark, .enclosingMark]
  | "n" | "number" => some [.decimalNumber, .letterNumber, .otherNumber]
  | "p" | "punctuation" | "punct" =>
      some [.connectorPunctuation, .dashPunctuation, .openPunctuation, .closePunctuation,
        .initialPunctuation, .finalPunctuation, .otherPunctuation]
  | "s" | "symbol" => some [.mathSymbol, .currencySymbol, .modifierSymbol, .otherSymbol]
  | "z" | "separator" => some [.spaceSeparator, .lineSeparator, .paragraphSeparator]
  | "c" | "other" => some [.control, .format, .surrogate, .privateUse, .unassigned]
  | "any" => some Text.Category.all
  | _ => none

/-- Long names of the general categories, without separators and in lower case. -/
def categoryLongName (category : Text.Category) : String :=
  match category with
  | .uppercaseLetter => "uppercaseletter"
  | .lowercaseLetter => "lowercaseletter"
  | .titlecaseLetter => "titlecaseletter"
  | .modifierLetter => "modifierletter"
  | .otherLetter => "otherletter"
  | .nonspacingMark => "nonspacingmark"
  | .spacingMark => "spacingmark"
  | .enclosingMark => "enclosingmark"
  | .decimalNumber => "decimalnumber"
  | .letterNumber => "letternumber"
  | .otherNumber => "othernumber"
  | .connectorPunctuation => "connectorpunctuation"
  | .dashPunctuation => "dashpunctuation"
  | .openPunctuation => "openpunctuation"
  | .closePunctuation => "closepunctuation"
  | .initialPunctuation => "initialpunctuation"
  | .finalPunctuation => "finalpunctuation"
  | .otherPunctuation => "otherpunctuation"
  | .mathSymbol => "mathsymbol"
  | .currencySymbol => "currencysymbol"
  | .modifierSymbol => "modifiersymbol"
  | .otherSymbol => "othersymbol"
  | .spaceSeparator => "spaceseparator"
  | .lineSeparator => "lineseparator"
  | .paragraphSeparator => "paragraphseparator"
  | .control => "control"
  | .format => "format"
  | .surrogate => "surrogate"
  | .privateUse => "privateuse"
  | .unassigned => "unassigned"

/-- A general category, or a group of them, by name. -/
def ofCategoryName? (name : String) : Option Charset :=
  match categoryGroup? name with
  | some categories => some (db.ofCategories categories)
  | none =>
      if name = "ascii" then some (.range 0 0x7f)
      else if name = "assigned" then some (db.category .unassigned).complement
      else if name = "digit" then some (db.category .decimalNumber)
      else if name = "cntrl" then some (db.category .control)
      else
        (Text.Category.all.find? fun category =>
          category != .surrogate &&
            (category.shortName.map Char.toLower == name || categoryLongName category == name)).map
          db.category

/-! ## Editions -/

/-- Names of an edition: its numbers with a point between them, or after a letter without one. -/
def editionNames (edition : Edition) : List String :=
  let major := toString edition.major
  let minor := toString edition.minor
  [major ++ "." ++ minor, "v" ++ major ++ minor]

/-- The characters that were assigned by an edition. -/
def ofEditionName? (name : String) : Option Charset :=
  (Edition.additions.find? fun row =>
    row.1.upTo ⟨16, 0⟩ && (editionNames row.1).contains name).map fun row => row.1.assigned

/-! ## Properties without a value -/

/-- The members of a property by its name. -/
def ofBinaryName? (name : String) : Option Charset :=
  match name with
  | "asciihexdigit" | "ahex" => some Listed.asciiHexDigit
  | "alphabetic" | "alpha" => some db.alphabetic
  | "bidicontrol" | "bidic" => some Listed.bidiControl
  | "caseignorable" | "ci" => some db.caseIgnorable
  | "cased" => some db.cased
  | "changeswhencasefolded" | "cwcf" => some Derived.foldChanging
  | "changeswhencasemapped" | "cwcm" => some Derived.caseChanging
  | "changeswhenlowercased" | "cwl" => some Derived.lowerCaseChanging
  | "changeswhentitlecased" | "cwt" => some Derived.titleCaseChanging
  | "changeswhenuppercased" | "cwu" => some Listed.upperCaseChanging
  | "dash" => some Listed.dash
  | "defaultignorablecodepoint" | "di" => some Derived.ignorable
  | "deprecated" | "dep" => some Listed.deprecated
  | "diacritic" | "dia" => some Listed.diacritic
  | "emoji" => some Listed.emoji
  | "emojicomponent" | "ecomp" => some Listed.emojiComponent
  | "emojimodifier" | "emod" => some Listed.emojiModifier
  | "emojimodifierbase" | "ebase" => some Listed.emojiModifierBase
  | "emojipresentation" | "epres" => some Listed.emojiPresentation
  | "extendedpictographic" | "extpict" => some Listed.pictographic
  | "extender" | "ext" => some Listed.extender
  | "graphemebase" | "grbase" => some Derived.graphemeBase
  | "graphemeextend" | "grext" => some db.extending
  | "graphemelink" | "grlink" => some Listed.graphemeLink
  | "hexdigit" | "hex" => some Listed.hexDigit
  | "hyphen" => some Listed.hyphen
  | "idsbinaryoperator" | "idsb" => some Listed.binaryDescription
  | "idstrinaryoperator" | "idst" => some Listed.trinaryDescription
  | "idsunaryoperator" | "idsu" => some Listed.unaryDescription
  | "idcompatmathcontinue" => some Derived.mathContinue
  | "idcompatmathstart" => some Listed.mathStart
  | "idcontinue" | "idc" => some Derived.identifierContinue
  | "idstart" | "ids" => some Derived.identifierStart
  | "ideographic" | "ideo" => some Listed.ideographic
  | "joincontrol" | "joinc" => some Listed.joinControl
  | "logicalorderexception" | "loe" => some Listed.logicalOrderException
  | "lowercase" | "lower" => some db.lowercase
  | "math" => some Derived.math
  | "modifiercombiningmark" | "mcm" => some Listed.combiningMark
  | "noncharactercodepoint" | "nchar" => some Listed.noncharacter
  | "otheralphabetic" | "oalpha" =>
      some (db.alphabetic \ (db.letters ∪ db.category .letterNumber))
  | "otherdefaultignorablecodepoint" | "odi" => some Listed.ignorableOthers
  | "othergraphemeextend" | "ogrext" =>
      some (db.extending \ db.ofCategories [.nonspacingMark, .enclosingMark])
  | "otheridcontinue" | "oidc" => some Listed.identifierContinueOthers
  | "otheridstart" | "oids" => some Listed.identifierStartOthers
  | "otherlowercase" | "olower" => some (db.lowercase \ db.category .lowercaseLetter)
  | "othermath" | "omath" => some Listed.mathOthers
  | "otheruppercase" | "oupper" => some (db.uppercase \ db.category .uppercaseLetter)
  | "patternsyntax" | "patsyn" => some Listed.patternSymbol
  | "patternwhitespace" | "patws" => some Listed.patternBlank
  | "prependedconcatenationmark" | "pcm" => some Listed.prependedMark
  | "quotationmark" | "qmark" => some Listed.quotationMark
  | "radical" => some Listed.radical
  | "regionalindicator" | "ri" => some Listed.regionalIndicator
  | "sentenceterminal" | "sterm" => some Listed.sentenceTerminal
  | "softdotted" | "sd" => some Listed.softDotted
  | "terminalpunctuation" | "term" => some Listed.terminalPunctuation
  | "unifiedideograph" | "uideo" => some Listed.unifiedIdeograph
  | "uppercase" | "upper" => some db.uppercase
  | "variationselector" | "vs" => some Listed.variationSelector
  | "whitespace" | "wspace" | "space" => some Listed.blank
  | "xidcontinue" | "xidc" => some Derived.stableContinue
  | "xidstart" | "xids" => some Derived.stableStart
  | _ => none

/-! ## All properties -/

/-- Names are compared without case, blanks, hyphens and underscores.  A leading `is` is dropped,
unless only a `c` is left. -/
def normalizeName (name : List Char) : String :=
  let letters (cs : List Char) :=
    (cs.filter fun c => c.toNat < 128 && !(c == ' ' || c == '-' || c == '_')).map Char.toLower
  match name with
  | first :: second :: rest =>
      if (first == 'i' || first == 'I') && (second == 's' || second == 'S') then
        if letters rest = ['c'] then "isc" else String.ofList (letters rest)
      else String.ofList (letters name)
  | name => String.ofList (letters name)

/-- The members of the script with a name. -/
def ofScriptName? (name : String) : Option Charset :=
  (Script.find? name).map Script.members

/-- The characters that a single name means. -/
def named? (name : List Char) : Option Charset :=
  let name := normalizeName name
  (ofBinaryName? name).or ((ofCategoryName? name).or (ofScriptName? name))

/-- The characters for which a property has a value. -/
def valued? (name value : List Char) : Option Charset :=
  let value := normalizeName value
  match normalizeName name with
  | "gc" | "generalcategory" => ofCategoryName? value
  | "sc" | "script" => ofScriptName? value
  | "scx" | "scriptextensions" => (Script.find? value).map Script.extended
  | "age" => ofEditionName? value
  | "gcb" | "graphemeclusterbreak" => Segment.grapheme? value
  | "wb" | "wordbreak" => Segment.word? value
  | "sb" | "sentencebreak" => Segment.sentence? value
  | _ => none

end Property
end Regex
end SchemaForm
