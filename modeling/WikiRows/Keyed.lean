/-!
# Lists in key order

Association lists and name lists in strictly increasing order of their keys. Text is ordered by code
points. Inserting a key that is there already replaces what it stands for.
-/

namespace WikiRows

namespace Keyed

variable {α : Type}

/-- Puts a value under a key, in place of what the key stood for. -/
def insert (key : String) (value : α) : List (String × α) → List (String × α)
  | [] => [(key, value)]
  | (k, v) :: rest =>
    if key < k then (key, value) :: (k, v) :: rest
    else if key = k then (key, value) :: rest
    else (k, v) :: insert key value rest

/-- The list in key order of which each key stands for the last value given for it. -/
def ofList (pairs : List (String × α)) : List (String × α) :=
  pairs.foldl (fun sorted pair => insert pair.1 pair.2 sorted) []

end Keyed

namespace NameSet

def insert (name : String) : List String → List String
  | [] => [name]
  | n :: rest =>
    if name < n then name :: n :: rest
    else if name = n then n :: rest
    else n :: insert name rest

def ofList (names : List String) : List String :=
  names.foldl (fun sorted name => insert name sorted) []

end NameSet

end WikiRows
