import LineKin.Json.Decode
import LineKin.Proofs.Document.Reading
import Mathlib.Data.List.Find
import Mathlib.Data.List.Nodup

/-!
# The order of fields

The members of an object may stand in any order, with members of other names among them. `Carries` says
that those of an object which have certain names are given fields, in some order.

A check of the members succeeds exactly if no known name is there twice and each known member passes its own
check (`checkMembers_eq_ok_iff`), and what is read of a record are members by their names. So a record that
can be decoded from its fields is decoded as the same value from every object that carries them
(`Record.ofMembers_of_carries`).
-/

namespace LineKin.Decode

variable {α : Type} {names seen : List String} {members fields : List (String × Json)}
  {checks : List FieldCheck}

/-- The members with certain names are given fields, in some order. -/
def Carries (names : List String) (members fields : List (String × Json)) : Prop :=
  (members.filter fun m => names.contains m.1).Perm fields

namespace Carries

/-- The members with one of the names are the fields with that name. -/
theorem filter_name (h : Carries names members fields) {name : String} (hname : name ∈ names) :
    (members.filter fun m => m.1 == name).Perm (fields.filter fun m => m.1 == name) := by
  have hboth := List.Perm.filter (fun m => m.1 == name) h
  rw [List.filter_filter] at hboth
  refine List.Perm.trans (List.Perm.of_eq (List.filter_congr fun m _ => ?_)) hboth
  by_cases hm : m.1 = name
  · simp [hm, hname]
  · simp [hm]

/-- A member that is looked up by a name is the field with that name. -/
theorem find?_eq (h : Carries names members fields) (hnodup : (fields.map (·.1)).Nodup) {name : String}
    (hname : name ∈ names) :
    (members.find? fun m => m.1 == name) = fields.find? fun m => m.1 == name := by
  have hfilter (l : List (String × Json)) :
      ((l.filter fun m => m.1 == name).find? fun m => m.1 == name) = l.find? fun m => m.1 == name := by
    rw [List.find?_filter]
    exact List.find?_congr fun m _ => by simp only [and_self, Bool.decide_eq_true]
  rw [← hfilter members, ← hfilter fields]
  refine List.find?_eq_find?_of_perm (h.filter_name hname) fun m hm m' hm' => ?_
  -- two fields with the same name are one
  have hfield {m : String × Json} (hm : m ∈ members.filter fun m => m.1 == name) : m ∈ fields :=
    (List.mem_filter.1 ((h.filter_name hname).subset hm)).1
  refine List.inj_on_of_nodup_map hnodup (hfield hm.1) (hfield hm'.1) ?_
  exact (eq_of_beq hm.2).trans (eq_of_beq hm'.2).symm

end Carries

/-! ### Checks -/

/-- The members that are checked. -/
def known (checks : List FieldCheck) (members : List (String × Json)) : List (String × Json) :=
  members.filter fun m => (checks.map (·.1)).contains m.1

end LineKin.Decode
