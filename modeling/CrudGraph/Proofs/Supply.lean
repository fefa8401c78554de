/-
A supply of names over its whole life. One document draws many names from one supply, with
beginnings and texts that come from anywhere: earlier names with a number behind them, other
beginnings and texts that look like names with a number are all in use together. The search for a
free name has no measure that falls by itself; it tries one candidate after the other until one is
free.

# What is shown

After any calls, refused ones among them, the search of one more call ends, having looked at no more
candidates than there are names in use and one. What is handed out was not in use; it is the plain
candidate where that is free, and else the one with the least number that is; and it is the one name
that is in use from then on. A text that is no name is refused, and then nothing new is in use. And
from a beginning that is a name there always comes a name (`draw_fresh`).

# How

The search is written down as it runs, with no bound on it (`Searches`). The candidates for a name
are all different, so one of the first few is free (`firstFree_least`), and that is where the search
ends (`searches_of_least`): the bound that the supply is given never decides anything
(`Searches.firstFree_eq`). A call on a supply is read with the names in use as its state, which a
refusal leaves as it stands at that moment (`draw`), and what every call keeps (`draw_keeps`) holds
after all of them (`usedAfter_keeps`).
-/
import CrudGraph.Proofs.FreshName

namespace CrudGraph.FreshName

-- ============================================================= the search

/-- The search for a free candidate from a number on, without a bound: how many candidates it looks
at, and the number of the one that it ends with. -/
inductive Searches (used : List String) (base : String) : Nat → Nat → Nat → Prop
  | ends {number : Nat} (hfree : candidate base number ∉ used) : Searches used base number 1 number
  | goesOn {number tried last : Nat} (htaken : candidate base number ∈ used)
      (hrest : Searches used base (number + 1) tried last) :
      Searches used base number (tried + 1) last

namespace Searches

variable {used : List String} {base : String} {number tried last : Nat}

/-- A search ends at a free candidate behind none but candidates in use. -/
theorem least (h : Searches used base number tried last) :
    number ≤ last ∧ tried + number = last + 1 ∧ candidate base last ∉ used
      ∧ ∀ k, number ≤ k → k < last → candidate base k ∈ used := by
  induction h with
  | ends hfree => exact ⟨Nat.le_refl _, Nat.add_comm _ _, hfree, fun k _ _ => by omega⟩
  | goesOn htaken _ ih =>
      obtain ⟨hle, htried, hfree, hbefore⟩ := ih
      refine ⟨by omega, by omega, hfree, fun k hk hlast => ?_⟩
      rcases Nat.eq_or_lt_of_le hk with rfl | hlt
      · exact htaken
      · exact hbefore k hlt hlast

/-- A bounded search that may look at as many candidates ends with the same one. -/
theorem firstFree_eq (h : Searches used base number tried last) {count : Nat}
    (hcount : tried ≤ count + 1) : firstFree used base number count = candidate base last := by
  induction h generalizing count with
  | ends hfree =>
      cases count with
      | zero => rfl
      | succ count => rw [firstFree, if_neg fun h => hfree (List.contains_iff_mem.1 h)]
  | goesOn htaken hrest ih =>
      cases count with
      | zero =>
          -- the search behind the first candidate looks at one candidate at least
          obtain ⟨hle, htried, -, -⟩ := hrest.least
          omega
      | succ count =>
          rw [firstFree, if_pos (List.contains_iff_mem.2 htaken)]
          exact ih (by omega)

end Searches

/-- The search ends where there is a free candidate behind none but candidates in use. -/
theorem searches_of_least {used : List String} {base : String} {number ahead : Nat}
    (hfree : candidate base (number + ahead) ∉ used)
    (hbefore : ∀ k, number ≤ k → k < number + ahead → candidate base k ∈ used) :
    Searches used base number (ahead + 1) (number + ahead) := by
  induction ahead generalizing number with
  | zero => exact Searches.ends hfree
  | succ ahead ih =>
      have hnext : number + (ahead + 1) = number + 1 + ahead := by omega
      rw [hnext] at hfree hbefore ⊢
      refine Searches.goesOn (hbefore number (Nat.le_refl _) (by omega)) ?_
      exact ih hfree fun k hk hlast => hbefore k (by omega) hlast

/-- Every search ends, after no more candidates than there are names in use and one. -/
theorem exists_searches (used : List String) (base : String) :
    ∃ last, Searches used base 0 (last + 1) last ∧ last ≤ used.length := by
  obtain ⟨last, hbound, -, hfree, hbefore⟩ := firstFree_least used base
  have hsearch : Searches used base 0 (last + 1) (0 + last) := by
    refine searches_of_least ?_ fun k _ hk => hbefore k (by omega)
    rwa [Nat.zero_add]
  rw [Nat.zero_add] at hsearch
  exact ⟨last, hsearch, hbound⟩

-- ============================================================== the supply

/-- A call on a supply: what it ends with, and the names in use then. The text is made a name before
it is entered. -/
def draw (used : List String) (lead raw : String) : Except Refusal Name × List String :=
  let free := firstFree used (lead ++ escape raw) 0 used.length
  match Name.ofText free with
  | .ok name => (.ok name, free :: used)
  | .error refusal => (.error refusal, used)

/-- The names in use after calls, each given by its beginning and its text. A refused call is a call
like any other. -/
def usedAfter (calls : List (String × String)) : List String :=
  calls.foldl (fun used call => (draw used call.1 call.2).2) []

/-- An allocation is a call that goes on only where a name is handed out. -/
theorem allocate_eq_draw (used : List String) (lead raw : String) :
    allocate used lead raw
      = (draw used lead raw).1.map fun name => (name, (draw used lead raw).2) := by
  unfold allocate draw
  dsimp only
  cases Name.ofText (firstFree used (lead ++ escape raw) 0 used.length) <;> rfl

/-- What a name that is handed out is: the text where that is free, and else the text with the least
number behind it that is. -/
structure IsFirstFree (used : List String) (base name : String) : Prop where
  fresh : name ∉ used
  plain : base ∉ used → name = base
  numbered : base ∈ used → ∃ k, 1 ≤ k ∧ name = base ++ "_" ++ toString k
    ∧ ∀ j, 1 ≤ j → j < k → base ++ "_" ++ toString j ∈ used

theorem candidate_zero (base : String) : candidate base 0 = base := rfl

theorem candidate_of_pos (base : String) {number : Nat} (h : 1 ≤ number) :
    candidate base number = base ++ "_" ++ toString number :=
  if_neg (by omega)

/-- A search from the text itself ends with the first that is free. -/
theorem Searches.isFirstFree {used : List String} {base : String} {tried last : Nat}
    (h : Searches used base 0 tried last) : IsFirstFree used base (candidate base last) := by
  obtain ⟨-, -, hfree, hbefore⟩ := h.least
  refine ⟨hfree, fun hplain => ?_, fun htaken => ?_⟩
  · rcases Nat.eq_zero_or_pos last with rfl | hpos
    · exact candidate_zero base
    · exact absurd (hbefore 0 (Nat.le_refl _) hpos) hplain
  · have hpos : 1 ≤ last := by
      rcases Nat.eq_zero_or_pos last with rfl | hpos
      · exact absurd htaken hfree
      · exact hpos
    refine ⟨last, hpos, candidate_of_pos base hpos, fun j hj hlast => ?_⟩
    rw [← candidate_of_pos base hj]
    exact hbefore j (Nat.zero_le j) hlast

/-- What a call comes to: the first free name is handed out and is in use from then on, or it is
none and is refused, and in use is what was. -/
theorem draw_cases (used : List String) (lead raw : String) :
    (∃ name : Name, draw used lead raw = (.ok name, name.text :: used)
        ∧ IsFirstFree used (lead ++ escape raw) name.text)
      ∨ ∃ text, draw used lead raw = (.error (.invalidName text), used)
          ∧ isName text.toList = false ∧ IsFirstFree used (lead ++ escape raw) text := by
  obtain ⟨last, hsearch, hbound⟩ := exists_searches used (lead ++ escape raw)
  have hfirst : IsFirstFree used (lead ++ escape raw)
      (firstFree used (lead ++ escape raw) 0 used.length) := by
    rw [hsearch.firstFree_eq (by omega)]
    exact hsearch.isFirstFree
  unfold draw
  dsimp only
  cases h : Name.ofText (firstFree used (lead ++ escape raw) 0 used.length) with
  | ok name =>
      have htext := Name.ofText_eq_ok_iff.1 h
      rw [← htext] at hfirst ⊢
      exact .inl ⟨name, rfl, hfirst⟩
  | error refusal =>
      obtain ⟨hinvalid, rfl⟩ := Name.ofText_eq_error_iff.1 h
      exact .inr ⟨_, rfl, hinvalid, hfirst⟩

-- =============================================================== all calls

/-- A call keeps the names in use different, and adds at most one. -/
theorem draw_keeps {used : List String} (h : used.Nodup) (lead raw : String) :
    (draw used lead raw).2.Nodup ∧ (draw used lead raw).2.length ≤ used.length + 1 := by
  rcases draw_cases used lead raw with ⟨name, hdraw, hfirst⟩ | ⟨_, hdraw, -, -⟩
  · rw [hdraw]
    exact ⟨List.nodup_cons.2 ⟨hfirst.fresh, h⟩, Nat.le_refl _⟩
  · rw [hdraw]
    exact ⟨h, Nat.le_succ _⟩

/-- After any calls the names in use are different, and no more of them than there were calls. -/
theorem usedAfter_keeps (calls : List (String × String)) :
    (usedAfter calls).Nodup ∧ (usedAfter calls).length ≤ calls.length := by
  have hrun : ∀ used : List String, used.Nodup →
      (calls.foldl (fun used call => (draw used call.1 call.2).2) used).Nodup
        ∧ (calls.foldl (fun used call => (draw used call.1 call.2).2) used).length
            ≤ used.length + calls.length := by
    induction calls with
    | nil => exact fun used h => ⟨h, Nat.le_refl _⟩
    | cons call rest ih =>
        intro used h
        obtain ⟨hnodup, hlength⟩ := draw_keeps h call.1 call.2
        obtain ⟨hnodups, hlengths⟩ := ih _ hnodup
        refine ⟨hnodups, Nat.le_trans hlengths ?_⟩
        rw [List.length_cons]
        omega
  have hstart := hrun [] List.nodup_nil
  rwa [List.length_nil, Nat.zero_add] at hstart

/-- A supply hands out fresh names and always ends. After any calls, the search of one more ends
behind no more candidates than there are names in use and one, with numbers that fit in 32 bits if
the calls were fewer than these can count. A name that is allocated is the one that the call hands
out; it is the first that is free and the only one that is new in use. A refusal is that of a text
which is no name and leaves what is in use. And from a beginning that is a name, a name is handed
out. -/
theorem draw_fresh (calls : List (String × String)) (lead raw : String) :
    allocate (usedAfter calls) lead raw
        = (draw (usedAfter calls) lead raw).1.map
            (fun name => (name, (draw (usedAfter calls) lead raw).2))
      ∧ (∃ tried last, Searches (usedAfter calls) (lead ++ escape raw) 0 tried last
        ∧ tried ≤ (usedAfter calls).length + 1
        ∧ (calls.length < Width.values 31 - 1 → Width.fitsSigned 32 (last + 1) = true))
      ∧ (usedAfter calls).Nodup
      ∧ (∀ name next, draw (usedAfter calls) lead raw = (.ok name, next) →
          IsFirstFree (usedAfter calls) (lead ++ escape raw) name.text
          ∧ next = name.text :: usedAfter calls)
      ∧ (∀ refusal next, draw (usedAfter calls) lead raw = (.error refusal, next) →
          (∃ text, refusal = .invalidName text ∧ isName text.toList = false
            ∧ IsFirstFree (usedAfter calls) (lead ++ escape raw) text)
          ∧ next = usedAfter calls)
      ∧ (isName lead.toList = true → ∃ name next,
          draw (usedAfter calls) lead raw = (.ok name, next)) := by
  obtain ⟨hnodup, hlength⟩ := usedAfter_keeps calls
  obtain ⟨last, hsearch, hbound⟩ := exists_searches (usedAfter calls) (lead ++ escape raw)
  refine ⟨allocate_eq_draw _ lead raw, ⟨last + 1, last, hsearch, by omega, fun hcalls => ?_⟩,
    hnodup, ?_, ?_, fun hlead => ?_⟩
  -- There are at most as many numbers tried as names in use, and at most as many of these as calls.
  · rw [Width.fitsSigned_iff]
    show -(Width.values 31 : Int) ≤ _ ∧ _ < (Width.values 31 : Int)
    omega
  · intro name next h
    rcases draw_cases (usedAfter calls) lead raw with ⟨_, hdraw, hfirst⟩ | ⟨_, hdraw, -, -⟩
    · cases hdraw.symm.trans h
      exact ⟨hfirst, rfl⟩
    · cases hdraw.symm.trans h
  · intro refusal next h
    rcases draw_cases (usedAfter calls) lead raw with ⟨_, hdraw, -⟩ | ⟨text, hdraw, hrefused⟩
    · cases hdraw.symm.trans h
    · cases hdraw.symm.trans h
      exact ⟨⟨text, rfl, hrefused⟩, rfl⟩
  · obtain ⟨name, hallocate, -⟩ := allocate_isOk hlead (usedAfter calls) raw
    rw [allocate_eq_draw] at hallocate
    rcases draw_cases (usedAfter calls) lead raw with ⟨name, hdraw, -⟩ | ⟨_, hdraw, -, -⟩
    · exact ⟨name, _, hdraw⟩
    · rw [hdraw] at hallocate
      cases hallocate

/-- A text is escaped character by character. -/
theorem escape_eq_of_toList {raw escaped : String}
    (h : (raw.toList.map fun c => if isNamePart c then c else '_') = escaped.toList) :
    escape raw = escaped := by
  rw [← String.toList_inj, escape, String.toList_map, h]

/-- Three texts that are escaped to one: the third gets the number behind that of the second. A text
that makes no name with its beginning is refused, and the names in use are the same. -/
theorem draw_fresh_keys :
    (∃ name next, draw (usedAfter [("k", "a-b"), ("k", "a_b")]) "k" "a.b" = (.ok name, next)
        ∧ IsFirstFree ["ka_b_1", "ka_b"] "ka_b" name.text
        ∧ next = [name.text, "ka_b_1", "ka_b"])
      ∧ (∃ tried last, Searches ["ka_b_1", "ka_b"] "ka_b" 0 tried last ∧ tried ≤ 3
        ∧ Width.fitsSigned 32 (last + 1) = true)
      ∧ ∃ refusal next, draw (usedAfter [("k", "a-b"), ("k", "a_b")]) "" "1"
          = (.error refusal, next) ∧ next = ["ka_b_1", "ka_b"] := by
  -- Both names are the same when they are escaped, so the second one gets a number.
  have hfirst : (draw [] "k" "a-b").2 = ["ka_b"] := by
    unfold draw
    rw [show escape "a-b" = "a_b" from escape_eq_of_toList rfl]
    rfl
  have hsecond : (draw ["ka_b"] "k" "a_b").2 = ["ka_b_1", "ka_b"] := by
    unfold draw
    rw [show escape "a_b" = "a_b" from escape_eq_of_toList rfl]
    rfl
  have hused : usedAfter [("k", "a-b"), ("k", "a_b")] = ["ka_b_1", "ka_b"] := by
    simp only [usedAfter, List.foldl_cons, List.foldl_nil, hfirst, hsecond]
  have hrefused : draw (usedAfter [("k", "a-b"), ("k", "a_b")]) "" "1"
      = (.error (.invalidName "1"), ["ka_b_1", "ka_b"]) := by
    rw [hused]
    unfold draw
    rw [show escape "1" = "1" from escape_eq_of_toList rfl]
    rfl
  have hescape : escape "a.b" = "a_b" := escape_eq_of_toList rfl
  obtain ⟨-, ⟨tried, last, hsearch, htried, hfits⟩, -, hhanded, -, hvalid⟩ :=
    draw_fresh [("k", "a-b"), ("k", "a_b")] "k" "a.b"
  obtain ⟨name, next, hdraw⟩ := hvalid (by decide)
  obtain ⟨hfree, hnext⟩ := hhanded name next hdraw
  obtain ⟨-, -, -, -, hrefusal, -⟩ := draw_fresh [("k", "a-b"), ("k", "a_b")] "" "1"
  have hsame := (hrefusal _ _ hrefused).2
  rw [hused, hescape] at hsearch hfree
  rw [hused] at htried hnext hsame
  exact ⟨⟨name, next, hdraw, hfree, hnext⟩, ⟨tried, last, hsearch, htried, hfits (by decide)⟩,
    ⟨_, _, hrefused, hsame⟩⟩

end CrudGraph.FreshName
