import OvfInspect.Storage.Client

/-!
# Tabulated storage

A client that answers from a table: which names are present, which cannot be looked up, and what
every object holds.
-/

namespace OvfInspect.Storage

structure Table where
  present : List String
  broken : List String
  /-- The content of every object, or why none can be read. -/
  content : Except String Xml.Content

def Table.client (table : Table) : Client where
  backend := .none
  find base wanted :=
    match wanted with
    | none => .fail (.storage (.notFound none base))
    | some name =>
      if name ∈ table.broken then
        .fail (.storage (.ofCode Failure.transferCode name))
      else if name ∈ table.present then pure ⟨base, name, base ++ "/" ++ name⟩
      else .fail (.storage (.notFound wanted base))
  read _ :=
    match table.content with
    | .ok content => pure content
    | .error reason => .fail (.storage (.told reason))
  join base name := pure (base ++ "/" ++ name)

end OvfInspect.Storage
