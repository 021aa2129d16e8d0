import ModelForge.Settings.Basic
import ModelForge.Text.Lowercase
import ModelForge.Value.Table

/-! Settings put together from several tables of entries, of which the later ones win. -/

namespace ModelForge.Settings

def languageDefaults : List (String × List (String × Value)) :=
  [("csharp",
    [("root_namespace", .text "AppConsumer"),
      ("entity_namespace", .text "Entities"),
      ("dto_namespace", .text "DTOs"),
      ("file_extension", .text ".g.cs"),
      ("dto_suffix", .text "DTO"),
      ("mapper_suffix", .text "Mapper"),
      ("to_dto_method", .text "MapToDTO"),
      ("to_entity_method", .text "MapToEntity"),
      ("add_comments", .bool true),
      ("escape_keywords", .bool true)])]

def languages : List String := Entries.keys languageDefaults

def defaultEntries (language : String) : List (String × Value) :=
  (Entries.find? (Text.lower language) languageDefaults).getD []

def strangers (entries : List (String × Value)) : List (String × Value) :=
  entries.filter fun e => (Setting.ofKey? e.1).isNone

/-- Entries that name no setting go into the custom table, over what it holds. -/
def ofMerged (entries : List (String × Value)) : Except Mismatch Settings :=
  let known := ofEntries entries
  let others := strangers entries
  if others.isEmpty then .ok known
  else (known.get .custom).table.map fun table => known.set .custom (.object (Entries.putAll table others))

/-- The settings for a language: its defaults, then the entries of a file, then overrides. -/
def merge (language : String) (file overrides : List (String × Value)) : Except Mismatch Settings :=
  ofMerged (Entries.putAll (Entries.putAll (defaultEntries language) file) overrides)

end ModelForge.Settings
