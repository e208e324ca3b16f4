import RecordFilter.Compiler

/-!
# Diagnostics

The inside of compilers and predicates as text, for those who look for a mistake
in a filter.
-/

namespace RecordFilter

namespace Inspect

/-- A named list of parts. -/
def withParts (name : String) (parts : List (String × String)) : String :=
  name ++ " \x7b " ++
    ", ".intercalate (parts.map fun (part, text) => part ++ ": " ++ text) ++
    " \x7d"

/-- A named list of parts that are not all of them. -/
def withSomeParts (name : String) (parts : List (String × String)) : String :=
  let shown := parts.map fun (part, text) => part ++ ": " ++ text
  name ++ " \x7b " ++ ", ".intercalate (shown ++ [".."]) ++
    " \x7d"

def withArgument (name argument : String) : String :=
  name ++ "(" ++ argument ++ ")"

def optional (text : Option String) : String :=
  match text with
  | some text => withArgument "Some" text
  | none => "None"

end Inspect

open Inspect

/-- Numbers get an exponent when they are very small or very large. -/
def Double.diagnosticStyle : NumberStyle where
  positional place := -4 ≤ place && place ≤ 15
  pointZero := true
  exponentSign := false
  tie := .up

def FieldType.inspect : FieldType → String
  | .boolean => "Boolean"
  | .int32 => "Int32"
  | .int64 => "Int64"
  | .float64 => "Float64"
  | .string => "String"
  | .date => "Date"
  | .dateTime => "DateTime"
  | .guid => "Guid"
  | .enum variants => withArgument "Enum" (Quoted.quoteList variants)

def Value.inspect : Value → String
  | .null => "Null"
  | .boolean value => withArgument "Boolean" (if value then "true" else "false")
  | .int32 value =>
    withArgument "Int32" (String.ofList (integerText value.toInt))
  | .int64 value =>
    withArgument "Int64" (String.ofList (integerText value.toInt))
  | .float64 value => withArgument "Float64" (Double.diagnosticStyle.text value)
  | .string value => withArgument "String" (Quoted.quote value)
  | .date value => withArgument "Date" (String.ofList value.text)
  | .dateTime value => withArgument "DateTime" (String.ofList value.shortText)
  | .guid value => withArgument "Guid" (String.ofList value.text)
  | .enum name => withArgument "Enum" (Quoted.quote name)

variable {α : Type}

def Field.inspect (field : Field α) : String :=
  withSomeParts "FieldDescriptor"
    [("name", Quoted.quote field.name), ("data_type", field.type.inspect)]

def Comparison.inspect (comparison : Comparison α) : String :=
  withParts "BoundComparison"
    [("field", Quoted.quote comparison.field.name),
      ("operator", comparison.operator.label),
      ("value", comparison.value.inspect)]

def Filter.inspect : Filter α → String
  | .comparison leaf => leaf.inspect
  | .logical connective left right =>
    withParts "Logical"
      [("op", connective.label), ("left", left.inspect),
        ("right", right.inspect)]

def Predicate.inspect (predicate : Predicate α) : String :=
  withSomeParts "CompiledPredicate"
    [("source", optional (predicate.source.map Quoted.quote)),
      ("ast", predicate.filter.inspect)]

def CompilerOptions.inspect (options : CompilerOptions) : String :=
  withParts "CompilerOptions"
    [("max_depth", toString options.limits.nesting),
      ("max_tree_depth", toString options.limits.treeDepth),
      ("max_query_len", optional (options.maxLength.map toString))]

def Compiler.inspect (compiler : Compiler α) : String :=
  withSomeParts "FilterCompiler"
    [("registry", Quoted.bracketed (compiler.schema.fields.map Field.inspect)),
      ("options", compiler.options.inspect)]

end RecordFilter
