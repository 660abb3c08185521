import EntityGraph.Language.Lexical

/-!
# The rules of the grammar

The GraphQL language as a table: each rule has a name and a pattern in which other rules occur.
Alternatives are ordered and a repetition takes as much as it can. Reading a document does not go
through this table; it tells which rules could have gone on where a document can not be read.

* `Pattern`: what a text has to look like, in terms of characters and rules;
* `GrammarRule.pattern`: the pattern of each rule.
-/

namespace EntityGraph

/-- Rules in the order in which they are listed when several of them could go on. -/
inductive GrammarRule where
  | endOfText
  | executableDocument
  | executableDefinition
  | operationDefinition
  | namedOperationDefinition
  | variableDefinitions
  | variableDefinition
  | selectionSet
  | selection
  | field
  | fieldAlias
  | fragmentSpread
  | inlineFragment
  | fragmentDefinition
  | typeCondition
  | serviceDocument
  | typeSystemDefinition
  | schemaDefinition
  | operationTypeDefinition
  | typeDefinition
  | scalarType
  | objectType
  | implementsInterfaces
  | interfaceType
  | fieldsDefinition
  | fieldDefinition
  | unionType
  | unionMemberTypes
  | enumType
  | enumValues
  | enumValueDefinition
  | inputObjectType
  | inputFieldsDefinition
  | extension
  | directiveDefinition
  | repeatable
  | directiveLocations
  | directiveLocation
  | argumentsDefinition
  | inputValueDefinition
  | operationType
  | defaultValue
  | typeReference
  | constValue
  | value
  | variableUse
  | number
  | float
  | int
  | fractional
  | exponent
  | string
  | boolean
  | null
  | enumValue
  | constList
  | list
  | constObject
  | object
  | constObjectField
  | objectField
  | constDirectives
  | directives
  | constDirective
  | directive
  | constArguments
  | arguments
  | constArgument
  | argument
  | name
deriving DecidableEq, Repr

/-- What a text has to look like. -/
inductive Pattern where
  | text (s : String)
  | char (accepts : Char → Bool)
  | rule (r : GrammarRule)
  /-- One behind the other. -/
  | and (first second : Pattern)
  /-- The first which fits. -/
  | or (first second : Pattern)
  | optional (p : Pattern)
  /-- Any number of times. -/
  | many (p : Pattern)
  /-- Nothing, where something else does not fit. -/
  | without (p : Pattern)
  /-- Nothing, behind the last character. -/
  | finish

namespace Pattern

/-- One or more times. -/
def several (p : Pattern) : Pattern := .and p (.many p)

/-- Patterns one behind the other. -/
def all : List Pattern → Pattern
  | [] => .without .finish
  | [p] => p
  | p :: rest => .and p (all rest)

/-- The first pattern which fits. -/
def oneOf : List Pattern → Pattern
  | [] => .and .finish (.without .finish)
  | [p] => p
  | p :: rest => .or p (oneOf rest)

/-- Patterns between marks. -/
def between (opening closing : String) (p : Pattern) : Pattern :=
  all [.text opening, p, .text closing]

/-- One or more times with a mark between, and perhaps one in front. -/
def separated (mark : String) (p : Pattern) : Pattern :=
  all [.optional (.text mark), p, .many (.and (.text mark) p)]

def digit : Pattern := .char Char.isDigit

def quotes : Pattern := .text "\"\"\""

def escapedQuotes : Pattern := .text "\\\"\"\""

/-- A character of a string in plain form. -/
def stringCharacter : Pattern :=
  oneOf [.char fun c => c ≠ '"' ∧ c ≠ '\\' ∧ !Lexical.isLineEnd c,
    .and (.text "\\") (.char fun c => (Lexical.escaped? c).isSome),
    all [.text "\\u", .without (.and (.char fun c => c == 'd' || c == 'D')
        (.char fun c => c == '8' || c == '9' || ('a' ≤ c.toLower && c.toLower ≤ 'f'))),
      hex, hex, hex, hex]]
where
  hex : Pattern := .char fun c => (Json.Reader.hexValue? c).isSome

/-- A character of a string in block form. -/
def blockCharacter : Pattern :=
  .or (.and (.without (.or quotes escapedQuotes)) (.char fun _ => true)) escapedQuotes

end Pattern

namespace GrammarRule

open Pattern

/-- How the parts of a rule follow each other. -/
inductive Spacing where
  /-- Layout may stand between the parts. -/
  | loose
  /-- The parts follow without layout. -/
  | tight
  /-- The parts follow without layout and are not told of on their own. -/
  | whole
deriving DecidableEq, Repr

/-- The spacing of rules which do not take that of the rule they occur in. -/
def spacing? : GrammarRule → Option Spacing
  | string | enumValue | typeCondition => some .tight
  | typeReference | number | float | int | fractional | exponent | name => some .whole
  | _ => none

/-- A type which may be extended: its keyword, what stands behind its name, and what has to stand
    there in an extension. -/
def declared (word : String) (parts : List Pattern) (extended : Pattern) : Pattern :=
  .or (all ([.optional (.rule string), .text word, .rule name] ++ parts))
    (all [.rule extension, .text word, .rule name, extended])

/-- A type with directives and a body, of which an extension has at least one. -/
def withBody (word : String) (body : Pattern) : Pattern :=
  declared word [.optional (.rule constDirectives), .optional body]
    (.or (.and (.optional (.rule constDirectives)) body) (.rule constDirectives))

/-- A type with interfaces and fields. -/
def withFields (word : String) : Pattern :=
  let interfaces := Pattern.rule implementsInterfaces
  let uses := Pattern.rule constDirectives
  let fields := Pattern.rule fieldsDefinition
  declared word [.optional interfaces, .optional uses, .optional fields]
    (oneOf [all [.optional interfaces, .optional uses, fields],
      all [.optional interfaces, uses], interfaces])

/-- Places a directive may be used at; a longer word stands before its own beginning. -/
def directivePlaces : List String :=
  ["QUERY", "MUTATION", "SUBSCRIPTION", "FIELD_DEFINITION", "FIELD", "FRAGMENT_DEFINITION",
    "FRAGMENT_SPREAD", "INLINE_FRAGMENT", "VARIABLE_DEFINITION", "SCHEMA", "SCALAR", "OBJECT",
    "ARGUMENT_DEFINITION", "INTERFACE", "UNION", "ENUM_VALUE", "ENUM", "INPUT_OBJECT",
    "INPUT_FIELD_DEFINITION"]

/-- The pattern of a rule. -/
def pattern : GrammarRule → Pattern
  | endOfText => .finish
  | executableDocument => .and (several (.rule executableDefinition)) (.rule endOfText)
  | executableDefinition => .or (.rule operationDefinition) (.rule fragmentDefinition)
  | operationDefinition => .or (.rule namedOperationDefinition) (.rule selectionSet)
  | namedOperationDefinition => all [.rule operationType, .optional (.rule name),
      .optional (.rule variableDefinitions), .optional (.rule directives), .rule selectionSet]
  | variableDefinitions => between "(" ")" (.many (.rule variableDefinition))
  | variableDefinition => all [.rule variableUse, .text ":", .rule typeReference,
      .optional (.rule directives), .optional (.rule defaultValue)]
  | selectionSet => between "\x7b" "\x7d" (several (.rule selection))
  | selection => oneOf [.rule field, .rule inlineFragment, .rule fragmentSpread]
  | field => all [.optional (.rule fieldAlias), .rule name, .optional (.rule arguments),
      .optional (.rule directives), .optional (.rule selectionSet)]
  | fieldAlias => .and (.rule name) (.text ":")
  | fragmentSpread => all [.text "...", .without (.rule typeCondition), .rule name,
      .optional (.rule directives)]
  | inlineFragment => all [.text "...", .optional (.rule typeCondition),
      .optional (.rule directives), .rule selectionSet]
  | fragmentDefinition => all [.text "fragment", .rule name, .rule typeCondition,
      .optional (.rule directives), .rule selectionSet]
  | typeCondition => all [.text "on", several (.char Lexical.isBlank), .rule name]
  | serviceDocument => .and (several (.rule typeSystemDefinition)) (.rule endOfText)
  | typeSystemDefinition => oneOf [.rule schemaDefinition, .rule typeDefinition,
      .rule directiveDefinition]
  | schemaDefinition =>
    let uses := Pattern.rule constDirectives
    let roots := between "\x7b" "\x7d" (several (.rule operationTypeDefinition))
    .or (all [.text "schema", .optional uses, roots])
      (all [.rule extension, .text "schema", .or (.and (.optional uses) roots) uses])
  | operationTypeDefinition => all [.rule operationType, .text ":", .rule name]
  | typeDefinition => oneOf [.rule scalarType, .rule objectType, .rule interfaceType,
      .rule unionType, .rule enumType, .rule inputObjectType]
  | scalarType => declared "scalar" [.optional (.rule constDirectives)] (.rule constDirectives)
  | objectType => withFields "type"
  | implementsInterfaces => .and (.text "implements") (separated "&" (.rule name))
  | interfaceType => withFields "interface"
  | fieldsDefinition => between "\x7b" "\x7d" (several (.rule fieldDefinition))
  | fieldDefinition => all [.optional (.rule string), .rule name,
      .optional (.rule argumentsDefinition), .text ":", .rule typeReference,
      .optional (.rule constDirectives)]
  | unionType => withBody "union" (.rule unionMemberTypes)
  | unionMemberTypes => .and (.text "=") (separated "|" (.rule name))
  | enumType => withBody "enum" (.rule enumValues)
  | enumValues => between "\x7b" "\x7d" (several (.rule enumValueDefinition))
  | enumValueDefinition => all [.optional (.rule string), .rule enumValue,
      .optional (.rule constDirectives)]
  | inputObjectType => withBody "input" (.rule inputFieldsDefinition)
  | inputFieldsDefinition => between "\x7b" "\x7d" (several (.rule inputValueDefinition))
  | extension => .text "extend"
  | directiveDefinition => all [.optional (.rule string), .text "directive", .text "@",
      .rule name, .optional (.rule argumentsDefinition), .optional (.rule repeatable), .text "on",
      .rule directiveLocations]
  | repeatable => .text "repeatable"
  | directiveLocations => separated "|" (.rule directiveLocation)
  | directiveLocation => oneOf (directivePlaces.map .text)
  | argumentsDefinition => between "(" ")" (several (.rule inputValueDefinition))
  | inputValueDefinition => all [.optional (.rule string), .rule name, .text ":",
      .rule typeReference, .optional (.rule defaultValue), .optional (.rule constDirectives)]
  | operationType => oneOf [.text "query", .text "mutation", .text "subscription"]
  | defaultValue => .and (.text "=") (.rule constValue)
  | typeReference => .and
      (.or (.rule name) (between "[" "]" (.rule typeReference))) (.optional (.text "!"))
  | constValue => oneOf [.rule number, .rule string, .rule boolean, .rule null, .rule enumValue,
      .rule constList, .rule constObject]
  | value => oneOf [.rule variableUse, .rule number, .rule string, .rule boolean, .rule null,
      .rule enumValue, .rule list, .rule object]
  | variableUse => .and (.text "$") (.rule name)
  | number => .and (.or (.rule float) (.rule int)) (.without (.char Lexical.isNameStart))
  | float => .and (.rule int) (oneOf [.and (.rule fractional) (.rule exponent), .rule fractional,
      .rule exponent])
  | int => .and (.optional (.text "-"))
      (.or (.text "0") (.and (.char fun c => c ≠ '0' ∧ c.isDigit) (.many digit)))
  | fractional => .and (.text ".") (several digit)
  | exponent => all [.or (.text "e") (.text "E"), .optional (.or (.text "+") (.text "-")),
      several digit]
  | string => .or (all [quotes, .many blockCharacter, quotes])
      (all [.text "\"", .many stringCharacter, .text "\""])
  | boolean => .or (.text "true") (.text "false")
  | null => .text "null"
  | enumValue => .and (.without (.or (.rule boolean) (.rule null))) (.rule name)
  | constList => between "[" "]" (.many (.rule constValue))
  | list => between "[" "]" (.many (.rule value))
  | constObject => between "\x7b" "\x7d" (.many (.rule constObjectField))
  | object => between "\x7b" "\x7d" (.many (.rule objectField))
  | constObjectField => all [.rule name, .text ":", .rule constValue]
  | objectField => all [.rule name, .text ":", .rule value]
  | constDirectives => several (.rule constDirective)
  | directives => several (.rule directive)
  | constDirective => all [.text "@", .rule name, .optional (.rule constArguments)]
  | directive => all [.text "@", .rule name, .optional (.rule arguments)]
  | constArguments => between "(" ")" (several (.rule constArgument))
  | arguments => between "(" ")" (several (.rule argument))
  | constArgument => all [.rule name, .text ":", .rule constValue]
  | argument => all [.rule name, .text ":", .rule value]
  | name => .and (.char Lexical.isNameStart) (.many (.char Lexical.isNameChar))

/-- The name under which a rule is told of. -/
def word : GrammarRule → String
  | endOfText => "EOI"
  | executableDocument => "executable_document"
  | executableDefinition => "executable_definition"
  | operationDefinition => "operation_definition"
  | namedOperationDefinition => "named_operation_definition"
  | variableDefinitions => "variable_definitions"
  | variableDefinition => "variable_definition"
  | selectionSet => "selection_set"
  | selection => "selection"
  | field => "field"
  | fieldAlias => "alias"
  | fragmentSpread => "fragment_spread"
  | inlineFragment => "inline_fragment"
  | fragmentDefinition => "fragment_definition"
  | typeCondition => "type_condition"
  | serviceDocument => "service_document"
  | typeSystemDefinition => "type_system_definition"
  | schemaDefinition => "schema_definition"
  | operationTypeDefinition => "operation_type_definition"
  | typeDefinition => "type_definition"
  | scalarType => "scalar_type"
  | objectType => "object_type"
  | implementsInterfaces => "implements_interfaces"
  | interfaceType => "interface_type"
  | fieldsDefinition => "fields_definition"
  | fieldDefinition => "field_definition"
  | unionType => "union_type"
  | unionMemberTypes => "union_member_types"
  | enumType => "enum_type"
  | enumValues => "enum_values"
  | enumValueDefinition => "enum_value_definition"
  | inputObjectType => "input_object_type"
  | inputFieldsDefinition => "input_fields_definition"
  | extension => "extend"
  | directiveDefinition => "directive_definition"
  | repeatable => "repeatable"
  | directiveLocations => "directive_locations"
  | directiveLocation => "directive_location"
  | argumentsDefinition => "arguments_definition"
  | inputValueDefinition => "input_value_definition"
  | operationType => "operation_type"
  | defaultValue => "default_value"
  | typeReference => "type_"
  | constValue => "const_value"
  | value => "value"
  | variableUse => "variable"
  | number => "number"
  | float => "float"
  | int => "int"
  | fractional => "fractional"
  | exponent => "exponent"
  | string => "string"
  | boolean => "boolean"
  | null => "null"
  | enumValue => "enum_value"
  | constList => "const_list"
  | list => "list"
  | constObject => "const_object"
  | object => "object"
  | constObjectField => "const_object_field"
  | objectField => "object_field"
  | constDirectives => "const_directives"
  | directives => "directives"
  | constDirective => "const_directive"
  | directive => "directive"
  | constArguments => "const_arguments"
  | arguments => "arguments"
  | constArgument => "const_argument"
  | argument => "argument"
  | name => "name"

end GrammarRule

end EntityGraph
