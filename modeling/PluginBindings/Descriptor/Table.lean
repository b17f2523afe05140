import PluginBindings.Descriptor.Reader

namespace PluginBindings

-- Descriptors by key, in the order in which they were declared.
structure DescriptorTable where
  emptyKey : Text
  descriptors : List FieldDescriptor
  distinct : (descriptors.map (·.key)).Nodup

namespace DescriptorTable

def empty (emptyKey : Text) : DescriptorTable := ⟨emptyKey, [], .nil⟩

def find? (table : DescriptorTable) (key : Text) : Option FieldDescriptor :=
  table.descriptors.find? (·.key == key)

def size (table : DescriptorTable) : Nat := table.descriptors.length

theorem find?_eq_none_iff {table : DescriptorTable} {key : Text} :
    table.find? key = none ↔ key ∉ table.descriptors.map (·.key) := by
  simp [find?, List.find?_eq_none]

-- The first declaration of a key stays; a second one is reported at its own line.
def insert (table : DescriptorTable) (descriptor : FieldDescriptor) :
    DescriptorTable × Except Fault Unit :=
  match absent : table.find? descriptor.key with
  | some first =>
    (table, .error (.parse (.declaredTwice descriptor.key first.line) descriptor.line))
  | none =>
    ({ table with
        descriptors := table.descriptors ++ [descriptor]
        distinct := by
          have fresh := find?_eq_none_iff.mp absent
          simpa [List.nodup_append, table.distinct] using
            fun other member same => fresh (List.mem_map.mpr ⟨other, member, same⟩) },
      .ok ())

def extend (table : DescriptorTable) (descriptor : FieldDescriptor) :
    Except Fault DescriptorTable :=
  match table.insert descriptor with
  | (larger, .ok ()) => .ok larger
  | (_, .error fault) => .error fault

-- A declared array wins over the empty key: that key needs no declaration, but may have one.
def resolve (table : DescriptorTable) (key event : Text) : Except Fault (List Text) :=
  match table.find? key with
  | some descriptor => .ok descriptor.fields
  | none => if key = table.emptyKey then .ok [] else .error (.unresolvedReference key event)

def ofText (text : Text) (header : Nat) (emptyKey : Text) : Outcome DescriptorTable :=
  (Descriptor.read text header).foldInto extend (empty emptyKey)

end DescriptorTable
end PluginBindings
