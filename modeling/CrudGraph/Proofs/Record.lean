/-
Records read by the names of their fields. Readers enter the members of a record one after the other
in the order of the text, which is what decides on the first problem to report. What comes out has
nothing to do with that order: every part of the draft is set by the members of one name and by no
others.

# What is shown

A field that alone sets a part of the draft (`Layout.Holds`) has read there what stands under its
name, in an object and in a sequence alike (`Holds.read_valueAt`). A member that is no field may
stand anywhere (`foldlM_unknown`), one that sets its part to what it is from the start may as well be
left out (`Idle.foldlM_drop`), and one may be put in the place of another that is read alike
(`foldlM_replace`).

# How

As long as no name comes twice, reading an object is a fold over its members
(`read_object`), and a change to one member is a change to one step of the fold. A sequence is read
as the object that has each element under the name of its field (`read_zip`).
-/
import CrudGraph.Proofs.Outcome
import CrudGraph.Reading.Layout

namespace CrudGraph.Reading

variable {σ α : Type}

/-- Where a failure is reported from makes no difference to success. -/
theorem within_eq_ok_iff {step : Step} {result : Except Failure α} {a : α} :
    within step result = .ok a ↔ result = .ok a := by
  cases result with
  | ok value => rfl
  | error failure => exact ⟨fun h => (by cases h), fun h => (by cases h)⟩

/-- In the place of an object there may be one of which the same is read. -/
theorem nullable_replace {read : Reader Json α} {members others : Table Json}
    (h : ∀ {a}, read (.object members) = .ok a → read (.object others) = .ok a) {found : Option α}
    (hfound : nullable read (.object members) = .ok found) :
    nullable read (.object others) = .ok found := by
  have hread : some <$> read (.object members) = .ok found := hfound
  cases hobject : read (.object members) with
  | error failure =>
      rw [hobject] at hread
      cases hread
  | ok a =>
      rw [hobject] at hread
      show some <$> read (.object others) = _
      rw [h hobject]
      exact hread

/-- So for an element of a list. -/
theorem elementsFrom_replace {read : Reader Json α} {value other : Json}
    (h : ∀ {a}, read value = .ok a → read other = .ok a) {index : Nat} {before after : List Json}
    {as : List α} (hread : elementsFrom read index (before ++ value :: after) = .ok as) :
    elementsFrom read index (before ++ other :: after) = .ok as := by
  induction before generalizing index as with
  | nil =>
      rw [List.nil_append, elementsFrom, bind_eq_ok_iff] at hread ⊢
      obtain ⟨a, ha, hrest⟩ := hread
      exact ⟨a, within_eq_ok_iff.2 (h (within_eq_ok_iff.1 ha)), hrest⟩
  | cons first before ih =>
      rw [List.cons_append, elementsFrom, bind_eq_ok_iff] at hread ⊢
      obtain ⟨a, ha, hread⟩ := hread
      obtain ⟨rest, hrest, hread⟩ := bind_eq_ok_iff.1 hread
      exact ⟨a, ha, bind_eq_ok_iff.2 ⟨rest, ih hrest, hread⟩⟩

namespace Layout

-- ===================================================== members one by one

/-- Enters one member. A member that is no field is passed over. -/
def enterMember (layout : Layout Json σ) (draft : σ) (member : String × Json) :
    Except Failure σ :=
  match layout.fields.find? (·.name == member.1) with
  | some field => within (.member member.1) (field.enter member.2 draft)
  | none => .ok draft

/-- The members of an object as the reader of records takes them. -/
def named (members : Table Json) : List (MemberName × Json) :=
  members.map fun (name, value) => (.text name, value)

variable {layout : Layout Json σ} {name : String} {value : Json} {front behind : Table Json}
  {draft last : σ}

/-- A member that is no field leaves the draft as it is. -/
theorem enterMember_unknown (h : name ∉ layout.names) :
    layout.enterMember draft (name, value) = .ok draft := by
  have hnone : layout.fields.find? (·.name == name) = none := by
    refine List.find?_eq_none.2 fun field hfield heq => h ?_
    exact List.mem_map.2 ⟨field, hfield, beq_iff_eq.1 heq⟩
  rw [enterMember, hnone]

/-- A field that is found stands under one of the names. -/
theorem mem_names_of_find? {field : RecordField Json σ}
    (h : layout.fields.find? (·.name == name) = some field) : name ∈ layout.names :=
  List.mem_map.2 ⟨field, List.mem_of_find?_eq_some h, by simpa using List.find?_some h⟩

/-- A member that is read is passed over, or it is entered and its name comes for the first time. -/
theorem of_enterMembers_cons {seen : List String}
    (h : layout.enterMembers seen draft (named ((name, value) :: behind)) = .ok last) :
    (name ∉ layout.names ∧ layout.enterMembers seen draft (named behind) = .ok last)
      ∨ (name ∉ seen ∧ ∃ next, layout.enterMember draft (name, value) = .ok next
          ∧ layout.enterMembers (name :: seen) next (named behind) = .ok last) := by
  rw [named, List.map_cons, enterMembers] at h
  unfold enterMember
  cases hfield : layout.fields.find? (·.name == name) with
  | none =>
      rw [hfield] at h
      refine .inl ⟨fun hname => ?_, ?_⟩
      · obtain ⟨field, hmem, rfl⟩ := List.mem_map.1 hname
        exact List.find?_eq_none.1 hfield field hmem (beq_self_eq_true _)
      -- A closed record would have refused the member.
      · dsimp only at h
        split at h
        · cases h
        · exact h
  | some field =>
      rw [hfield] at h
      dsimp only at h ⊢
      split at h
      · cases h
      -- A name that had been seen would have been refused.
      · next hnew =>
        obtain ⟨next, hnext, h⟩ := bind_eq_ok_iff.1 h
        exact .inr ⟨fun hmem => hnew (List.contains_iff_mem.2 hmem), next, hnext, h⟩

/-- With every name once, members are entered one after the other: none is refused for having been
seen. -/
theorem enterMembers_eq_foldlM (hopen : layout.isClosed = false) {seen : List String}
    {members : Table Json} (hproper : (Table.keys members).Nodup)
    (hseen : ∀ name ∈ seen, name ∉ Table.keys members) :
    layout.enterMembers seen draft (named members)
      = members.foldlM layout.enterMember draft := by
  induction members generalizing seen draft with
  | nil => rfl
  | cons member rest ih =>
      obtain ⟨name, value⟩ := member
      obtain ⟨hname, hrest⟩ := List.nodup_cons.1 hproper
      have hbehind : ∀ other ∈ seen, other ∉ Table.keys rest :=
        fun other hother hmem => hseen other hother (List.mem_cons_of_mem _ hmem)
      rw [named, List.map_cons, enterMembers, List.foldlM_cons, enterMember]
      cases layout.fields.find? (·.name == name) with
      | none =>
          rw [hopen]
          exact ih hrest hbehind
      | some field =>
          -- What was seen does not come again, so no member is refused for that.
          have hnew : seen.contains name = false := by
            refine Bool.eq_false_iff.2 fun hmem => ?_
            exact hseen name (List.contains_iff_mem.1 hmem) List.mem_cons_self
          dsimp only
          rw [hnew]
          cases within (.member name) (field.enter value draft) with
          | error failure => rfl
          | ok next =>
              refine ih hrest fun other hother => ?_
              rcases List.mem_cons.1 hother with rfl | hother
              · exact hname
              · exact hbehind other hother

/-- Reading an object is a fold over its members. -/
theorem read_object (hopen : layout.isClosed = false) {members : Table Json}
    (hproper : (Table.keys members).Nodup) :
    layout.read draft (.object members) = members.foldlM layout.enterMember draft :=
  enterMembers_eq_foldlM hopen hproper fun _ h => absurd h List.not_mem_nil

-- ====================================================== changes to members

/-- A member in the middle is new if it is neither in front of it nor behind. -/
theorem nodup_keys_middle :
    (Table.keys (front ++ (name, value) :: behind)).Nodup
      ↔ (name ∉ Table.keys front ∧ name ∉ Table.keys behind)
        ∧ (Table.keys (front ++ behind)).Nodup := by
  unfold Table.keys
  rw [List.map_append, List.map_cons, List.map_append, List.perm_middle.nodup_iff,
    List.nodup_cons, List.mem_append, not_or]

/-- Unknown members may come and go. -/
theorem foldlM_unknown (h : name ∉ layout.names) :
    (front ++ (name, value) :: behind).foldlM layout.enterMember draft
      = (front ++ behind).foldlM layout.enterMember draft := by
  rw [List.foldlM_append, List.foldlM_append]
  refine congrArg _ (funext fun next => ?_)
  rw [List.foldlM_cons, enterMember_unknown h]
  rfl

/-- In the place of a value there may be one that its field enters alike. -/
theorem enterMember_replace {field : RecordField Json σ} {other : Json}
    (hfield : layout.fields.find? (·.name == name) = some field)
    (hvalue : ∀ {draft last}, field.enter value draft = .ok last →
      field.enter other draft = .ok last)
    (h : layout.enterMember draft (name, value) = .ok last) :
    layout.enterMember draft (name, other) = .ok last := by
  rw [enterMember, hfield] at h ⊢
  exact within_eq_ok_iff.2 (hvalue (within_eq_ok_iff.1 h))

/-- In the place of a member there may be one that is entered alike. -/
theorem foldlM_replace {other : Json}
    (hvalue : ∀ {draft last}, layout.enterMember draft (name, value) = .ok last →
      layout.enterMember draft (name, other) = .ok last)
    (h : (front ++ (name, value) :: behind).foldlM layout.enterMember draft = .ok last) :
    (front ++ (name, other) :: behind).foldlM layout.enterMember draft = .ok last := by
  rw [List.foldlM_append, bind_eq_ok_iff] at h ⊢
  obtain ⟨next, hfront, h⟩ := h
  rw [List.foldlM_cons, bind_eq_ok_iff] at h
  obtain ⟨after, hafter, h⟩ := h
  refine ⟨next, hfront, ?_⟩
  rw [List.foldlM_cons, hvalue hafter]
  exact h

-- ================================================== parts of the draft

/-- A field that alone sets a part of the draft, to what it reads. -/
structure Holds (layout : Layout Json σ) (name : String) (read : Reader Json α) (get : σ → α) :
    Prop where
  known : name ∈ layout.names
  entered : ∀ {value draft last}, layout.enterMember draft (name, value) = .ok last →
    read value = .ok (get last)
  kept : ∀ {other value draft last}, other ≠ name →
    layout.enterMember draft (other, value) = .ok last → get last = get draft

end Layout

/-- A field that leaves a part of the draft as it is. -/
def RecordField.Keeps (field : RecordField Json σ) (get : σ → α) : Prop :=
  ∀ value draft last, field.enter value draft = .ok last → get last = get draft

/-- A field that sets a part of the draft to what it reads. -/
def RecordField.Fills (field : RecordField Json σ) (read : Reader Json α) (get : σ → α) : Prop :=
  ∀ value draft last, field.enter value draft = .ok last → read value = .ok (get last)

/-- A field that reads its value and sets the draft with it. -/
def RecordField.Sets {β : Type} (field : RecordField Json σ) (inner : Reader Json β)
    (set : σ → β → σ) : Prop :=
  ∀ value draft last, field.enter value draft = .ok last
    ↔ ∃ b, inner value = .ok b ∧ last = set draft b

namespace RecordField

variable {β : Type} {name : String} {inner : Reader Json β} {set : σ → β → σ}

@[simp] theorem name_required : (required name inner set).name = name := rfl

@[simp] theorem name_optional : (optional name inner set).name = name := rfl

/-- A field that has to be there sets what it reads, and nothing is set where it reads nothing. -/
theorem sets_required : (required name inner set).Sets inner set := by
  refine fun value draft last => bind_eq_ok_iff.trans (exists_congr fun b => ?_)
  refine and_congr_right fun _ => ⟨fun h => ?_, fun h => ?_⟩
  · exact (Except.ok.inj h).symm
  · exact congrArg Except.ok h.symm

theorem sets_optional : (optional name inner set).Sets inner set :=
  @sets_required σ β name inner set

namespace Sets

variable {field : RecordField Json σ} {get : σ → α}

/-- A part that no setting changes is kept. -/
theorem keeps (h : field.Sets inner set) (hget : ∀ draft b, get (set draft b) = get draft) :
    field.Keeps get := by
  intro value draft last henter
  obtain ⟨b, -, rfl⟩ := (h value draft last).1 henter
  exact hget draft b

/-- A part that every setting changes in the same way is filled. -/
theorem fills {read : Reader Json α} (h : field.Sets inner set)
    (hread : ∀ value draft b, inner value = .ok b → read value = .ok (get (set draft b))) :
    field.Fills read get := by
  intro value draft last henter
  obtain ⟨b, hb, rfl⟩ := (h value draft last).1 henter
  exact hread value draft b hb

/-- In the place of a value there may be one of which the same is read. -/
theorem replace {value other : Json} {draft last : σ} (h : field.Sets inner set)
    (hvalue : ∀ {b}, inner value = .ok b → inner other = .ok b)
    (henter : field.enter value draft = .ok last) : field.enter other draft = .ok last := by
  obtain ⟨b, hb, hlast⟩ := (h value draft last).1 henter
  exact (h other draft last).2 ⟨b, hvalue hb, hlast⟩

end Sets

@[simp] theorem keeps_required {get : σ → α} (h : ∀ draft b, get (set draft b) = get draft) :
    (required name inner set).Keeps get :=
  sets_required.keeps h

@[simp] theorem keeps_optional {get : σ → α} (h : ∀ draft b, get (set draft b) = get draft) :
    (optional name inner set).Keeps get :=
  sets_optional.keeps h

end RecordField

namespace Layout.Holds

variable {layout : Layout Json σ} {name : String} {read : Reader Json α} {get : σ → α}

/-- A field holds what it fills and all others keep. -/
theorem of_field {field : RecordField Json σ}
    (hfield : layout.fields.find? (·.name == name) = some field) (hfills : field.Fills read get)
    (hkeeps : ∀ other ∈ layout.fields, other.name ≠ name → other.Keeps get) :
    layout.Holds name read get := by
  refine ⟨?_, fun {value draft last} h => ?_, fun {other value draft last} hother h => ?_⟩
  · exact mem_names_of_find? hfield
  · rw [enterMember, hfield] at h
    exact hfills value draft last (within_eq_ok_iff.1 h)
  · unfold enterMember at h
    split at h
    · next found hfound =>
      have hname : found.name = other := by simpa using List.find?_some hfound
      have hmem := List.mem_of_find?_eq_some hfound
      exact hkeeps found hmem (hname ▸ hother) value draft last (within_eq_ok_iff.1 h)
    · cases h
      rfl

/-- For most fields it is enough that the part is what was set. -/
theorem of_optional {set : σ → α → σ} (get : σ → α)
    (hfield : layout.fields.find? (·.name == name) = some (.optional name read set))
    (hget : ∀ draft a, get (set draft a) = a)
    (hkeeps : ∀ other ∈ layout.fields, other.name ≠ name → other.Keeps get) :
    layout.Holds name read get := by
  refine of_field hfield (RecordField.sets_optional.fills fun value draft a h => ?_) hkeeps
  rw [hget, h]

variable {value : Json} {front behind : Table Json} {draft last : σ}

/-- Members of other names leave the part as it is. -/
theorem get_of_foldlM (h : layout.Holds name read get) {members : Table Json}
    (hother : name ∉ Table.keys members)
    (hread : members.foldlM layout.enterMember draft = .ok last) : get last = get draft := by
  induction members generalizing draft with
  | nil =>
      cases hread
      rfl
  | cons member rest ih =>
      obtain ⟨other, value⟩ := member
      rw [List.foldlM_cons, bind_eq_ok_iff] at hread
      obtain ⟨next, hnext, hread⟩ := hread
      have hne : other ≠ name := fun heq => hother (heq ▸ List.mem_cons_self)
      rw [ih (fun hmem => hother (List.mem_cons_of_mem _ hmem)) hread, h.kept hne hnext]

/-- What the part is in the end: what stands under the name of its field, if something does. -/
theorem of_enterMembers (h : layout.Holds name read get) {seen : List String} {members : Table Json}
    (hread : layout.enterMembers seen draft (named members) = .ok last) :
    (name ∈ seen → get last = get draft)
      ∧ (name ∉ seen → match Table.find? members name with
          | some value => read value = .ok (get last)
          | none => get last = get draft) := by
  induction members generalizing seen draft with
  | nil =>
      cases hread
      exact ⟨fun _ => rfl, fun _ => rfl⟩
  | cons member rest ih =>
      obtain ⟨other, value⟩ := member
      rw [Table.find?_cons]
      rcases of_enterMembers_cons hread with ⟨hunknown, hread⟩ | ⟨hnew, next, hnext, hread⟩
      · have hne : other ≠ name := fun heq => hunknown (heq ▸ h.known)
        rw [if_neg hne]
        exact ih hread
      · obtain ⟨hseen, hfound⟩ := ih hread
        by_cases heq : other = name
        · -- The name has been seen from here on, so what it set stays.
          subst heq
          rw [if_pos rfl]
          refine ⟨fun hmem => absurd hmem hnew, fun _ => ?_⟩
          show read value = .ok (get last)
          rw [hseen List.mem_cons_self]
          exact h.entered hnext
        · rw [if_neg heq]
          rw [h.kept heq hnext] at hseen hfound
          refine ⟨fun hmem => hseen (List.mem_cons_of_mem _ hmem), fun hnot => hfound ?_⟩
          exact List.not_mem_cons_of_ne_of_not_mem (Ne.symm heq) hnot

end Layout.Holds

-- ========================================================== idle members

namespace Layout

/-- A member that sets the part of the draft that its field holds to what it is from the start. -/
def Idle (layout : Layout Json σ) (initial : σ) (name : String) (value : Json) : Prop :=
  ∃ (α : Type) (read : Reader Json α) (get : σ → α), layout.Holds name read get
    ∧ ∀ draft, get draft = get initial → layout.enterMember draft (name, value) = .ok draft

/-- A member is idle if its field reads it as what is there from the start. -/
theorem Holds.idle {layout : Layout Json σ} {initial : σ} {name : String} {value : Json}
    {read : Reader Json α} {get : σ → α} {set : σ → α → σ} (h : layout.Holds name read get)
    (hfield : layout.fields.find? (·.name == name) = some (.optional name read set))
    (hset : ∀ draft, set draft (get draft) = draft) (hvalue : read value = .ok (get initial)) :
    layout.Idle initial name value := by
  refine ⟨α, read, get, h, fun draft hsame => ?_⟩
  have hentered : (RecordField.optional name read set).enter value draft = .ok draft := by
    refine (RecordField.sets_optional value draft draft).2 ⟨get draft, ?_, (hset draft).symm⟩
    rw [hsame, hvalue]
  rw [enterMember, hfield]
  exact within_eq_ok_iff.2 hentered

/-- An idle member may as well be left out. -/
theorem Idle.foldlM_drop {layout : Layout Json σ} {initial : σ} {name : String} {value : Json}
    {front behind : Table Json} (h : layout.Idle initial name value)
    (hfront : name ∉ Table.keys front) :
    (front ++ (name, value) :: behind).foldlM layout.enterMember initial
      = (front ++ behind).foldlM layout.enterMember initial := by
  obtain ⟨_, _, _, hholds, hsame⟩ := h
  rw [List.foldlM_append, List.foldlM_append]
  cases hread : front.foldlM layout.enterMember initial with
  | error failure => rfl
  | ok draft =>
      show List.foldlM _ _ _ = _
      rw [List.foldlM_cons, hsame draft (hholds.get_of_foldlM hfront hread)]

/-- A member that was there when the object was read may as well be left out. -/
def MayDrop (layout : Layout Json σ) (initial : σ) (name : String) (value : Json) : Prop :=
  ∀ (front behind : Table Json) (last : σ), name ∉ Table.keys front →
    (front ++ (name, value) :: behind).foldlM layout.enterMember initial = .ok last →
    (front ++ behind).foldlM layout.enterMember initial = .ok last

namespace MayDrop

variable {layout : Layout Json σ} {initial : σ} {name : String} {value : Json}

/-- An unknown member may be left out. -/
theorem of_unknown (h : name ∉ layout.names) : layout.MayDrop initial name value :=
  fun _ _ _ _ hread => (foldlM_unknown h).symm.trans hread

theorem of_idle (h : layout.Idle initial name value) : layout.MayDrop initial name value :=
  fun _ _ _ hfront hread => (h.foldlM_drop hfront).symm.trans hread

/-- A member that is refused was not there. -/
theorem of_refused (h : ∀ draft last, layout.enterMember draft (name, value) ≠ .ok last) :
    layout.MayDrop initial name value := by
  intro front behind last _ hread
  rw [List.foldlM_append, bind_eq_ok_iff] at hread
  obtain ⟨draft, -, hread⟩ := hread
  rw [List.foldlM_cons, bind_eq_ok_iff] at hread
  obtain ⟨next, hnext, -⟩ := hread
  exact absurd hnext (h draft next)

/-- A member may be left out if its field reads it as the part that is there from the start. -/
theorem of_optional {read : Reader Json α} {set : σ → α → σ} (get : σ → α)
    (hfield : layout.fields.find? (·.name == name) = some (.optional name read set))
    (hget : ∀ draft a, get (set draft a) = a) (hset : ∀ draft, set draft (get draft) = draft)
    (hkeeps : ∀ other ∈ layout.fields, other.name ≠ name → other.Keeps get)
    (hvalue : read value = .ok (get initial)) : layout.MayDrop initial name value :=
  .of_idle ((Holds.of_optional get hfield hget hkeeps).idle hfield hset hvalue)

end MayDrop

end Layout

-- ============================================================== sequences

namespace Layout

variable {layout : Layout Json σ} {draft last : σ}

/-- Elements of a sequence come under the names of the first fields; there may be fewer of them, not
more. -/
theorem keys_zip_sublist (names : List String) (values : List Json) :
    (Table.keys (names.zip values)).Sublist names := by
  induction names generalizing values with
  | nil => exact List.Sublist.slnil
  | cons name rest ih =>
      cases values with
      | nil => exact List.nil_sublist _
      | cons value values => exact (ih values).cons_cons name

/-- Elements are entered as members under the names of their fields. -/
theorem foldlM_of_enterElements {given index : Nat} {fields : List (RecordField Json σ)}
    {values : List Json}
    (hfields : ∀ field ∈ fields, layout.fields.find? (·.name == field.name) = some field)
    (h : layout.enterElements given index draft fields values = .ok last) :
    ((fields.map (·.name)).zip values).foldlM layout.enterMember draft = .ok last := by
  induction fields generalizing index draft values with
  | nil =>
      cases values with
      | nil => exact h
      | cons value rest => cases h
  | cons field fields ih =>
      obtain ⟨hfield, hrest⟩ := List.forall_mem_cons.1 hfields
      cases values with
      | nil =>
          -- The elements have run out, and the fields that are left may be missing.
          rw [enterElements] at h
          split at h
          · have hnone := ih hrest h
            rwa [List.zip_nil_right] at hnone ⊢
          · cases h
      | cons value values =>
          rw [enterElements, bind_eq_ok_iff] at h
          obtain ⟨next, hnext, h⟩ := h
          have hentered : layout.enterMember draft (field.name, value) = .ok next := by
            rw [enterMember, hfield]
            exact within_eq_ok_iff.2 (within_eq_ok_iff.1 hnext)
          rw [List.map_cons, List.zip_cons_cons, List.foldlM_cons, hentered]
          exact ih hrest h

/-- A sequence is read as the object that has each element under the name of its field. -/
theorem read_zip (hopen : layout.isClosed = false) (hnames : layout.names.Nodup)
    {values : List Json} (h : layout.read draft (.array values) = .ok last) :
    layout.read draft (.object (layout.names.zip values)) = .ok last := by
  have hproper : (Table.keys (layout.names.zip values)).Nodup :=
    hnames.sublist (keys_zip_sublist _ _)
  have hfields : ∀ field ∈ layout.fields,
      layout.fields.find? (·.name == field.name) = some field :=
    fun field hfield => find?_eq_of_nodup (RecordField.name) hnames hfield
  rw [read_object hopen hproper]
  exact foldlM_of_enterElements hfields h

/-- The members of a record: those of an object, and the elements of a sequence under the names of
their fields. -/
def membersOf (layout : Layout Json σ) : Json → Table Json
  | .object members => members
  | .array values => layout.names.zip values
  | _ => []

/-- What a record has for a field. Nothing is as good as null. -/
def valueAt (layout : Layout Json σ) (record : Json) (name : String) : Json :=
  (Table.find? (layout.membersOf record) name).getD .null

namespace Holds

variable {name : String} {read : Reader Json α} {get : σ → α} {record : Json}

/-- A part of what was read is what stands under the name of its field, if something does. -/
theorem of_read (h : layout.Holds name read get) (hopen : layout.isClosed = false)
    (hnames : layout.names.Nodup) (hread : layout.read draft record = .ok last) :
    match Table.find? (layout.membersOf record) name with
    | some value => read value = .ok (get last)
    | none => get last = get draft := by
  cases record with
  | object members => exact (h.of_enterMembers hread).2 List.not_mem_nil
  | array values => exact (h.of_enterMembers (read_zip hopen hnames hread)).2 List.not_mem_nil
  | null | bool | integer | double | string => cases hread

/-- The same for a field that reads null as what is there from the start. -/
theorem read_valueAt (h : layout.Holds name read get) (hopen : layout.isClosed = false)
    (hnames : layout.names.Nodup) (hnull : read .null = .ok (get draft))
    (hread : layout.read draft record = .ok last) :
    read (layout.valueAt record name) = .ok (get last) := by
  have hpart := h.of_read hopen hnames hread
  unfold valueAt
  cases hfound : Table.find? (layout.membersOf record) name with
  | some value =>
      rw [hfound] at hpart
      exact hpart
  | none =>
      rw [hfound] at hpart
      show read .null = _
      rw [hpart, hnull]

/-- The same for a field that has to be given. -/
theorem read_given {inner : Reader Json α} {get : σ → Option α} {a : α}
    (h : layout.Holds name (fun value => some <$> inner value) get)
    (hopen : layout.isClosed = false) (hnames : layout.names.Nodup) (hnone : get draft = none)
    (hread : layout.read draft record = .ok last) (hgiven : get last = some a) :
    inner (layout.valueAt record name) = .ok a := by
  have hpart := h.of_read hopen hnames hread
  unfold valueAt
  cases hfound : Table.find? (layout.membersOf record) name with
  | some value =>
      rw [hfound, hgiven] at hpart
      have hpart : some <$> inner value = .ok (some a) := hpart
      show inner value = .ok a
      cases hinner : inner value with
      | ok found =>
          rw [hinner] at hpart
          cases hpart
          rfl
      | error failure =>
          rw [hinner] at hpart
          cases hpart
  | none =>
      rw [hfound, hgiven, hnone] at hpart
      cases hpart

end Holds

end Layout

end CrudGraph.Reading
