import Mathlib.Data.List.Basic

/-! A serializable value as the calls it makes on its serializer. A serializer is a function of these
calls and knows nothing else of the value. -/

namespace BusExporter.Lib

inductive Call
  | beginMap
  | endMap
  | beginSeq
  | endSeq
  | key (name : String)
  | bool (value : Bool)
  | unsigned (value : Nat)
  | float (value : Float)
  | str (value : String)

namespace Serde

def fields (entries : List (String × List Call)) : List Call :=
  entries.flatMap fun (name, value) => .key name :: value

def map (entries : List (String × List Call)) : List Call := .beginMap :: fields entries ++ [.endMap]

def seq (items : List (List Call)) : List Call := .beginSeq :: items.flatten ++ [.endSeq]

def optional {α : Type} (name : String) (serialize : α → List Call) : Option α → List (String × List Call)
  | none => []
  | some value => [(name, serialize value)]

def strings (calls : List Call) : List String :=
  calls.filterMap fun
    | .key s | .str s => some s
    | _ => none

@[simp] theorem strings_append (calls later : List Call) :
    strings (calls ++ later) = strings calls ++ strings later := List.filterMap_append

@[simp] theorem strings_key (name : String) (calls : List Call) :
    strings (.key name :: calls) = name :: strings calls := rfl

@[simp] theorem strings_str (value : String) : strings [.str value] = [value] := rfl

theorem fields_append (entries later : List (String × List Call)) :
    fields (entries ++ later) = fields entries ++ fields later := List.flatMap_append

theorem strings_map (entries : List (String × List Call)) : strings (map entries) = strings (fields entries) := by
  rw [map, List.cons_append]
  change strings (fields entries ++ [.endMap]) = _
  rw [strings_append]
  exact List.append_nil _

theorem strings_field (front : List (String × List Call)) (name : String) (back : List (String × List Call))
    {value value' : List Call}
    (same : strings (map (front ++ (name, value) :: back)) = strings (map (front ++ (name, value') :: back))) :
    strings value = strings value' := by
  have split (value : List Call) : fields (front ++ (name, value) :: back) =
      fields front ++ (.key name :: (value ++ fields back)) := by
    rw [fields_append]
    rfl
  rw [strings_map, strings_map, split, split, strings_append, strings_append, strings_key, strings_key,
    strings_append, strings_append] at same
  exact List.append_cancel_right (List.cons.inj (List.append_cancel_left same)).2

end Serde
end BusExporter.Lib
