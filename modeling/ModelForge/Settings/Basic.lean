import ModelForge.Text.Blank
import ModelForge.Text.Lines
import ModelForge.Value.Display
import ModelForge.Value.Mismatch

/-! The settings of a run. Each holds any JSON value; a value of another kind than its default is found out only where it
is used. -/

namespace ModelForge

inductive Setting where
  | rootNamespace
  | entityNamespace
  | dtoNamespace
  | fileExtension
  | schemaSuffix
  | dtoSuffix
  | mapperSuffix
  | toDtoMethod
  | toEntityMethod
  | indentSize
  | lineEnding
  | addComments
  | escapeKeywords
  | extraSimpleTypes
  | extraCollectionPrefixes
  | custom
  deriving DecidableEq, Repr

namespace Setting

def all : List Setting :=
  [rootNamespace, entityNamespace, dtoNamespace, fileExtension, schemaSuffix, dtoSuffix, mapperSuffix, toDtoMethod,
    toEntityMethod, indentSize, lineEnding, addComments, escapeKeywords, extraSimpleTypes, extraCollectionPrefixes,
    custom]

def key : Setting → String
  | rootNamespace => "root_namespace"
  | entityNamespace => "entity_namespace"
  | dtoNamespace => "dto_namespace"
  | fileExtension => "file_extension"
  | schemaSuffix => "schema_suffix"
  | dtoSuffix => "dto_suffix"
  | mapperSuffix => "mapper_suffix"
  | toDtoMethod => "to_dto_method"
  | toEntityMethod => "to_entity_method"
  | indentSize => "indent_size"
  | lineEnding => "line_ending"
  | addComments => "add_comments"
  | escapeKeywords => "escape_keywords"
  | extraSimpleTypes => "extra_simple_types"
  | extraCollectionPrefixes => "extra_collection_prefixes"
  | custom => "custom"

def default : Setting → Value
  | rootNamespace => .text "AppConsumer"
  | entityNamespace => .text "Entities"
  | dtoNamespace => .text "DTOs"
  | fileExtension => .text ".g.cs"
  | schemaSuffix => .text ".model.xml"
  | dtoSuffix => .text "DTO"
  | mapperSuffix => .text "Mapper"
  | toDtoMethod => .text "MapToDTO"
  | toEntityMethod => .text "MapToEntity"
  | indentSize => .int 4
  | lineEnding => .text "\n"
  | addComments => .bool true
  | escapeKeywords => .bool true
  | extraSimpleTypes => .list []
  | extraCollectionPrefixes => .list []
  | custom => .object []

def ofKey? (k : String) : Option Setting := all.find? (·.key == k)

theorem mem_all (s : Setting) : s ∈ all := by cases s <;> decide

theorem ofKey?_key (s : Setting) : ofKey? s.key = some s := by cases s <;> decide +kernel

end Setting

structure Settings where
  get : Setting → Value

namespace Settings

def default : Settings := ⟨Setting.default⟩

def set (s : Settings) (name : Setting) (v : Value) : Settings := ⟨fun n => if n = name then v else s.get n⟩

def ofEntries (entries : List (String × Value)) : Settings :=
  ⟨fun n => (Entries.find? n.key entries).getD n.default⟩

/-- The value has the kind of the default value; lists hold texts. -/
def Fits : Setting → Value → Prop
  | .indentSize, .int _ => True
  | .addComments, .bool _ => True
  | .escapeKeywords, .bool _ => True
  | .extraSimpleTypes, .list items => ∀ v ∈ items, ∃ t, v = .text t
  | .extraCollectionPrefixes, .list items => ∀ v ∈ items, ∃ t, v = .text t
  | .custom, .object _ => True
  | .rootNamespace, .text _ => True
  | .entityNamespace, .text _ => True
  | .dtoNamespace, .text _ => True
  | .fileExtension, .text _ => True
  | .schemaSuffix, .text _ => True
  | .dtoSuffix, .text _ => True
  | .mapperSuffix, .text _ => True
  | .toDtoMethod, .text _ => True
  | .toEntityMethod, .text _ => True
  | .lineEnding, .text _ => True
  | _, _ => False

def WellTyped (s : Settings) : Prop := ∀ n, Fits n (s.get n)

theorem wellTyped_default : default.WellTyped := by
  intro n
  cases n <;> simp [default, Setting.default, Fits]

def shown (s : Settings) (n : Setting) : String := (s.get n).display

/-- A part of a namespace without the dots around it, none if nothing is left. -/
def namespacePart : Value → Except Mismatch (List (List Char))
  | .text t =>
    let part := Text.stripBy (· = '.') t.toList
    .ok (if part.isEmpty then [] else [part])
  | v => if v.isSet then .error (.noOperation v.kind "strip") else .ok []

def joinedNamespace (root sub : Value) : Except Mismatch String := do
  let parts ← namespacePart root
  let others ← namespacePart sub
  return String.ofList (Text.joinWith ['.'] (parts ++ others))

def entityPath (s : Settings) : Except Mismatch String :=
  joinedNamespace (s.get .rootNamespace) (s.get .entityNamespace)

def dtoPath (s : Settings) : Except Mismatch String := joinedNamespace (s.get .rootNamespace) (s.get .dtoNamespace)

/-- A count has 64 binary digits, of which one is for its sign. -/
def IsIndex (n : Int) : Prop := -Nat.pow 2 63 ≤ n ∧ n < Nat.pow 2 63

instance (n : Int) : Decidable (IsIndex n) := inferInstanceAs (Decidable (_ ∧ _))

/-- As many blanks as the indent size says; truth values count as one and zero. -/
def indent (s : Settings) : Except Mismatch String :=
  match s.get .indentSize with
  | .int n => if IsIndex n then .ok (String.ofList (List.replicate n.toNat ' ')) else .error .notIndexSized
  | .bool b => .ok (if b then " " else "")
  | v => .error (.notCount v.kind)

def lineEnding (s : Settings) : Except Mismatch String :=
  match s.get .lineEnding with
  | .text t => .ok t
  | v => .error (.noOperation v.kind "join")

end Settings

end ModelForge
