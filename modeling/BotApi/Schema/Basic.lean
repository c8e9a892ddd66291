import BotApi.Table

/-!
# Schemas

A schema is what the documentation says, under the names of its types and methods: texts as they stand
there, before any type expression is read.
-/

namespace BotApi

/-- A field of a type, or a parameter of a method. Each text of `types` is an alternative. -/
structure FieldSpec where
  name : String
  types : List String
  required : Bool
  description : String

/-- A type. A type with subtypes is abstract: its values are those of its subtypes. -/
structure TypeSpec where
  href : String
  description : List String
  fields : List FieldSpec
  subtypes : List String
  subtypeOf : List String

/-- A method. Each text of `returns` is an alternative. -/
structure MethodSpec where
  href : String
  description : List String
  fields : List FieldSpec
  returns : List String

/-- The types and methods of a documentation. -/
structure Schema where
  version : Option String
  releaseDate : Option String
  changelog : Option String
  methods : Table MethodSpec
  types : Table TypeSpec

end BotApi
