namespace StackLexer

-- Kinds form a tree under `token`: `stringSingle` is a kind of `string`, and that a kind of
-- `token`. The set is closed, and every kind has a dotted name that says its path. Parents come
-- before their children; this order is the order of kinds.
inductive Kind where
  | token
  | text | textWhitespace
  | whitespace
  | escape
  | error
  | other
  | keyword | keywordConstant | keywordDeclaration | keywordNamespace | keywordPseudo
  | keywordReserved | keywordType
  | name | nameAttribute | nameBuiltin | nameBuiltinPseudo | nameClass | nameConstant
  | nameDecorator | nameEntity | nameException | nameFunction | nameFunctionMagic | nameProperty
  | nameLabel | nameNamespace | nameOther | nameTag | nameVariable | nameVariableClass
  | nameVariableGlobal | nameVariableInstance | nameVariableMagic
  | literal | literalDate
  | string | stringAffix | stringBacktick | stringChar | stringDelimiter | stringDoc
  | stringDouble | stringEscape | stringHeredoc | stringInterpol | stringOther | stringRegex
  | stringSingle | stringSymbol
  | number | numberBin | numberFloat | numberHex | numberInteger | numberIntegerLong | numberOct
  | operator | operatorWord
  | punctuation
  | comment | commentHashbang | commentMultiline | commentPreproc | commentPreprocFile
  | commentSingle | commentSpecial
  | generic | genericDeleted | genericEmph | genericError | genericHeading | genericInserted
  | genericOutput | genericPrompt | genericStrong | genericSubheading | genericTraceback
deriving DecidableEq, Repr, Inhabited

namespace Kind

def all : List Kind :=
  [.token, .text, .textWhitespace, .whitespace, .escape, .error, .other, .keyword,
   .keywordConstant, .keywordDeclaration, .keywordNamespace, .keywordPseudo, .keywordReserved,
   .keywordType, .name, .nameAttribute, .nameBuiltin, .nameBuiltinPseudo, .nameClass,
   .nameConstant, .nameDecorator, .nameEntity, .nameException, .nameFunction, .nameFunctionMagic,
   .nameProperty, .nameLabel, .nameNamespace, .nameOther, .nameTag, .nameVariable,
   .nameVariableClass, .nameVariableGlobal, .nameVariableInstance, .nameVariableMagic, .literal,
   .literalDate, .string, .stringAffix, .stringBacktick, .stringChar, .stringDelimiter,
   .stringDoc, .stringDouble, .stringEscape, .stringHeredoc, .stringInterpol, .stringOther,
   .stringRegex, .stringSingle, .stringSymbol, .number, .numberBin, .numberFloat, .numberHex,
   .numberInteger, .numberIntegerLong, .numberOct, .operator, .operatorWord, .punctuation,
   .comment, .commentHashbang, .commentMultiline, .commentPreproc, .commentPreprocFile,
   .commentSingle, .commentSpecial, .generic, .genericDeleted, .genericEmph, .genericError,
   .genericHeading, .genericInserted, .genericOutput, .genericPrompt, .genericStrong,
   .genericSubheading, .genericTraceback]

def dottedName : Kind → String
  | .token => "Token"
  | .text => "Text"
  | .textWhitespace => "Text.Whitespace"
  | .whitespace => "Whitespace"
  | .escape => "Escape"
  | .error => "Error"
  | .other => "Other"
  | .keyword => "Keyword"
  | .keywordConstant => "Keyword.Constant"
  | .keywordDeclaration => "Keyword.Declaration"
  | .keywordNamespace => "Keyword.Namespace"
  | .keywordPseudo => "Keyword.Pseudo"
  | .keywordReserved => "Keyword.Reserved"
  | .keywordType => "Keyword.Type"
  | .name => "Name"
  | .nameAttribute => "Name.Attribute"
  | .nameBuiltin => "Name.Builtin"
  | .nameBuiltinPseudo => "Name.Builtin.Pseudo"
  | .nameClass => "Name.Class"
  | .nameConstant => "Name.Constant"
  | .nameDecorator => "Name.Decorator"
  | .nameEntity => "Name.Entity"
  | .nameException => "Name.Exception"
  | .nameFunction => "Name.Function"
  | .nameFunctionMagic => "Name.Function.Magic"
  | .nameProperty => "Name.Property"
  | .nameLabel => "Name.Label"
  | .nameNamespace => "Name.Namespace"
  | .nameOther => "Name.Other"
  | .nameTag => "Name.Tag"
  | .nameVariable => "Name.Variable"
  | .nameVariableClass => "Name.Variable.Class"
  | .nameVariableGlobal => "Name.Variable.Global"
  | .nameVariableInstance => "Name.Variable.Instance"
  | .nameVariableMagic => "Name.Variable.Magic"
  | .literal => "Literal"
  | .literalDate => "Literal.Date"
  | .string => "String"
  | .stringAffix => "String.Affix"
  | .stringBacktick => "String.Backtick"
  | .stringChar => "String.Char"
  | .stringDelimiter => "String.Delimiter"
  | .stringDoc => "String.Doc"
  | .stringDouble => "String.Double"
  | .stringEscape => "String.Escape"
  | .stringHeredoc => "String.Heredoc"
  | .stringInterpol => "String.Interpol"
  | .stringOther => "String.Other"
  | .stringRegex => "String.Regex"
  | .stringSingle => "String.Single"
  | .stringSymbol => "String.Symbol"
  | .number => "Number"
  | .numberBin => "Number.Bin"
  | .numberFloat => "Number.Float"
  | .numberHex => "Number.Hex"
  | .numberInteger => "Number.Integer"
  | .numberIntegerLong => "Number.Integer.Long"
  | .numberOct => "Number.Oct"
  | .operator => "Operator"
  | .operatorWord => "Operator.Word"
  | .punctuation => "Punctuation"
  | .comment => "Comment"
  | .commentHashbang => "Comment.Hashbang"
  | .commentMultiline => "Comment.Multiline"
  | .commentPreproc => "Comment.Preproc"
  | .commentPreprocFile => "Comment.PreprocFile"
  | .commentSingle => "Comment.Single"
  | .commentSpecial => "Comment.Special"
  | .generic => "Generic"
  | .genericDeleted => "Generic.Deleted"
  | .genericEmph => "Generic.Emph"
  | .genericError => "Generic.Error"
  | .genericHeading => "Generic.Heading"
  | .genericInserted => "Generic.Inserted"
  | .genericOutput => "Generic.Output"
  | .genericPrompt => "Generic.Prompt"
  | .genericStrong => "Generic.Strong"
  | .genericSubheading => "Generic.Subheading"
  | .genericTraceback => "Generic.Traceback"

-- The kind one step up the tree.
def parent? : Kind → Option Kind
  | .token => none
  | .textWhitespace => some .text
  | .keywordConstant | .keywordDeclaration | .keywordNamespace | .keywordPseudo
  | .keywordReserved | .keywordType => some .keyword
  | .nameAttribute | .nameBuiltin | .nameClass | .nameConstant | .nameDecorator | .nameEntity
  | .nameException | .nameFunction | .nameProperty | .nameLabel | .nameNamespace | .nameOther
  | .nameTag | .nameVariable => some .name
  | .nameBuiltinPseudo => some .nameBuiltin
  | .nameFunctionMagic => some .nameFunction
  | .nameVariableClass | .nameVariableGlobal | .nameVariableInstance | .nameVariableMagic
    => some .nameVariable
  | .literalDate => some .literal
  | .stringAffix | .stringBacktick | .stringChar | .stringDelimiter | .stringDoc | .stringDouble
  | .stringEscape | .stringHeredoc | .stringInterpol | .stringOther | .stringRegex
  | .stringSingle | .stringSymbol => some .string
  | .numberBin | .numberFloat | .numberHex | .numberInteger | .numberOct => some .number
  | .numberIntegerLong => some .numberInteger
  | .operatorWord => some .operator
  | .commentHashbang | .commentMultiline | .commentPreproc | .commentPreprocFile | .commentSingle
  | .commentSpecial => some .comment
  | .genericDeleted | .genericEmph | .genericError | .genericHeading | .genericInserted
  | .genericOutput | .genericPrompt | .genericStrong | .genericSubheading | .genericTraceback
    => some .generic
  | _ => some .token

def rank (kind : Kind) : Nat := kind.ctorIdx

-- The first `count` kinds on the way from a kind up to the root.
def climb : Nat → Kind → List Kind
  | 0, _ => []
  | count + 1, kind =>
      kind :: match kind.parent? with
        | none => []
        | some parent => climb count parent

-- The kind itself, its parent, and so on up to `token`. No path is longer than the list of kinds.
def ancestors (kind : Kind) : List Kind := climb all.length kind

-- The kind is `above` or lies below it.
def isA (kind above : Kind) : Bool := kind.ancestors.contains above

def depth (kind : Kind) : Nat := kind.ancestors.length - 1

-- The child of `token` above the kind; `token` for itself.
def topLevel (kind : Kind) : Kind :=
  match kind.ancestors.reverse with
  | _ :: top :: _ => top
  | _ => kind

end Kind

end StackLexer
