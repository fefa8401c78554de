/-
What computations that may refuse end with. A request is put together in many steps, each of which
may refuse; a statement about the whole is made from one statement for each step.

`Settles result post` says of one step both things that are ever wanted of it: a value that it ends
with has the property `post`, and a refusal that it ends with is not the one of a variable that is
declared twice. The second half is what makes the first one more than a statement about luck: it
is carried through every step, so that at the end no request is found to be refused for a reason
that the caller did not give.

Reported computations are mostly read through their result alone: reporting an omission never
changes what comes out. Where the reports are what a statement is about, a computation is read as a
whole instead, as what it leaves out and what it ends with (`Reports`, `Refuses`).
-/
import CrudGraph.Document.Name
import CrudGraph.Omission

namespace CrudGraph

variable {α β : Type}

-- =============================================================== success

/-- A step that ends with a value, before one that succeeds from there. -/
theorem exists_ok_bind {first : Except Refusal α} {next : α → Except Refusal β} {value : α}
    (hfirst : first = .ok value) (hnext : ∃ last, next value = .ok last) :
    ∃ last, first >>= next = .ok last := by
  subst hfirst
  exact hnext

/-- A step that ends with some value, before one that succeeds from any. -/
theorem exists_ok_bind_of_forall {first : Except Refusal α} {next : α → Except Refusal β}
    (hfirst : ∃ value, first = .ok value) (hnext : ∀ value, ∃ last, next value = .ok last) :
    ∃ last, first >>= next = .ok last := by
  obtain ⟨value, hfirst⟩ := hfirst
  exact exists_ok_bind hfirst (hnext value)

/-- Two steps succeed together exactly when the first does and the second does from there. -/
theorem bind_eq_ok_iff {ε : Type} {first : Except ε α} {next : α → Except ε β} {last : β} :
    first >>= next = .ok last ↔ ∃ value, first = .ok value ∧ next value = .ok last := by
  cases first with
  | ok value => exact ⟨fun h => ⟨value, rfl, h⟩, fun ⟨_, h, hnext⟩ => by cases h; exact hnext⟩
  | error refusal => exact ⟨fun h => (by cases h), fun ⟨_, h, _⟩ => (by cases h)⟩

/-- Behind the same first step, steps that succeed from the same values. -/
theorem exists_ok_bind_congr {γ : Type} {first : Except Refusal α}
    {next : α → Except Refusal β} {other : α → Except Refusal γ}
    (h : ∀ value, first = .ok value →
      ((∃ last, next value = .ok last) ↔ ∃ last, other value = .ok last)) :
    (∃ last, first >>= next = .ok last) ↔ ∃ last, first >>= other = .ok last := by
  cases first with
  | ok value => exact h value rfl
  | error refusal => exact ⟨fun ⟨_, h⟩ => (by cases h), fun ⟨_, h⟩ => (by cases h)⟩

/-- A result with a value is that value. -/
theorem eq_ok_of_toOption {result : Except Refusal α} {value : α}
    (h : result.toOption = some value) : result = .ok value := by
  cases result with
  | ok found => exact congrArg Except.ok (Option.some.inj h)
  | error refusal => cases h

/-- A result of which something is known has a value of which it holds. -/
theorem exists_eq_ok_of_map {result : Except Refusal α} {f : α → β} {known : β}
    (h : (result.map f).toOption = some known) :
    ∃ value, result = .ok value ∧ f value = known := by
  cases result with
  | ok value => exact ⟨value, rfl, Option.some.inj h⟩
  | error refusal => cases h

-- ============================================== results of reported steps

namespace Reported

/-- The result of going on from a value is the result of going on from the result. -/
theorem result_bind (first : Reported α) (next : α → Reported β) :
    (first >>= next).result = first.result >>= fun value => (next value).result := by
  obtain ⟨omissions, result⟩ := first
  cases result <;> rfl

theorem result_pure (value : α) : (pure value : Reported α).result = .ok value := rfl

/-- What two steps leave out is left out by one of them. -/
theorem mem_omissions_bind {first : Reported α} {next : α → Reported β} {omission : Omission}
    (h : omission ∈ (first >>= next).omissions) :
    omission ∈ first.omissions ∨ ∃ value, omission ∈ (next value).omissions := by
  obtain ⟨omissions, result⟩ := first
  cases result with
  | ok value =>
    rw [bind_ok rfl] at h
    exact (List.mem_append.1 h).imp_right fun h => ⟨value, h⟩
  | error refusal => exact .inl h

/-- A step without omissions is its result. -/
theorem result_lift (result : Except Refusal α) :
    (liftM result : Reported α).result = result := rfl

end Reported

-- ============================================================= settling

/-- The refusal of a variable that is declared a second time. -/
def Refusal.declaredTwice (variableName : String) : Refusal :=
  .invalidRequest s!"variable `${variableName}` is declared twice"

/-- A value that the computation ends with has the property, and a refusal that it ends with is not
that of a variable declared twice. -/
structure Settles (result : Except Refusal α) (post : α → Prop) : Prop where
  of_eq_ok : ∀ {value}, result = .ok value → post value
  ne_declaredTwice : ∀ variableName, result ≠ .error (.declaredTwice variableName)

namespace Settles

variable {result : Except Refusal α} {post weaker : α → Prop}

theorem ok {value : α} (h : post value) : Settles (.ok value) post :=
  ⟨fun heq => Except.ok.inj heq ▸ h, fun _ heq => (by cases heq)⟩

/-- A refusal of any other kind than an invalid request. -/
theorem error {refusal : Refusal} (h : ∀ reason, refusal ≠ .invalidRequest reason) :
    Settles (.error refusal) post :=
  ⟨fun heq => (by cases heq), fun _ heq => h _ (Except.error.inj heq)⟩

/-- An invalid request whose reason begins like no refusal of a variable. -/
theorem invalid {reason : String} (h : reason.toList.head? ≠ some 'v') :
    Settles (.error (.invalidRequest reason)) post := by
  refine ⟨fun heq => (by cases heq), fun variableName heq => h ?_⟩
  have hreason : reason = s!"variable `${variableName}` is declared twice" :=
    Refusal.invalidRequest.inj (Except.error.inj heq)
  rw [hreason, String.toList_append, String.toList_append]
  rfl

/-- One step after the other: what the first leaves is what the second begins with. -/
theorem bind {next : α → Except Refusal β} {last : β → Prop} (h : Settles result post)
    (hnext : ∀ value, post value → Settles (next value) last) :
    Settles (result >>= next) last := by
  cases result with
  | ok value => exact hnext value (h.of_eq_ok rfl)
  | error refusal =>
      refine ⟨fun heq => (by cases heq), fun variableName heq => ?_⟩
      cases heq
      exact h.ne_declaredTwice variableName rfl

/-- What is made of a value has every property that follows from that of the value. -/
theorem map {f : α → β} {last : β → Prop} (h : Settles result post)
    (himp : ∀ value, post value → last (f value)) : Settles (result.map f) last := by
  cases result with
  | ok value => exact ok (himp value (h.of_eq_ok rfl))
  | error refusal =>
      refine ⟨fun heq => (by cases heq), fun variableName heq => ?_⟩
      cases heq
      exact h.ne_declaredTwice variableName rfl

/-- A value is the one that the computation ends with. -/
theorem eq_ok (h : Settles result post) : Settles result fun value => result = .ok value :=
  ⟨fun heq => heq, h.ne_declaredTwice⟩

/-- A value with a property has every property that follows from it. -/
theorem mono (h : Settles result post) (himp : ∀ value, post value → weaker value) :
    Settles result weaker :=
  ⟨fun heq => himp _ (h.of_eq_ok heq), h.ne_declaredTwice⟩

end Settles

/-- What a reported computation ends with, whatever it leaves out. It is a definition of its own so
that two such statements are compared by their computations, and these are never evaluated. -/
def Reported.Settles (reported : Reported α) (post : α → Prop) : Prop :=
  CrudGraph.Settles reported.result post

/-- A step that leaves nothing out. -/
theorem Settles.lift {result : Except Refusal α} {post : α → Prop} (h : Settles result post) :
    (liftM result : Reported α).Settles post := h

namespace Reported.Settles

variable {reported : Reported α} {post weaker : α → Prop}

/-- One step after the other. -/
theorem bind {next : α → Reported β} {last : β → Prop} (h : reported.Settles post)
    (hnext : ∀ value, post value → (next value).Settles last) :
    (reported >>= next).Settles last := by
  unfold Reported.Settles
  rw [result_bind]
  exact CrudGraph.Settles.bind h hnext

/-- Of a reported computation, too, what is known may be weakened. -/
theorem mono (h : reported.Settles post) (himp : ∀ value, post value → weaker value) :
    reported.Settles weaker :=
  CrudGraph.Settles.mono h himp

end Reported.Settles

-- ============================================================== endings

/-- A reported computation ends with a value, whatever it leaves out. Where `Settles` follows a
computation forwards, this one is taken apart backwards, from what came out; it is a definition of
its own for the same reason. -/
def Reported.EndsWith (reported : Reported α) (value : α) : Prop :=
  reported.result = .ok value

namespace Reported.EndsWith

variable {next : α → Reported β} {last : β}

/-- What two steps end with, the second ends with from what the first ends with. -/
theorem of_bind {first : Reported α} (h : (first >>= next).EndsWith last) :
    ∃ value, first.EndsWith value ∧ (next value).EndsWith last := by
  unfold EndsWith at h
  rw [result_bind] at h
  exact bind_eq_ok_iff.1 h

/-- The same, where the first step leaves nothing out. -/
theorem of_lift_bind {first : Except Refusal α}
    (h : ((liftM first : Reported α) >>= next).EndsWith last) :
    ∃ value, first = .ok value ∧ (next value).EndsWith last :=
  h.of_bind

end Reported.EndsWith

/-- A step that ends with a value, before one that ends with something from there. -/
theorem Reported.exists_bind {first : Reported α} {value : α} (hfirst : first.EndsWith value)
    {next : α → Reported β} (hnext : ∃ last, (next value).EndsWith last) :
    ∃ last, (first >>= next).EndsWith last := by
  unfold Reported.EndsWith at hfirst hnext ⊢
  simp only [Reported.result_bind]
  exact exists_ok_bind hfirst hnext

/-- The same, where the first step leaves nothing out. -/
theorem Reported.exists_lift_bind {first : Except Refusal α} {value : α}
    (hfirst : first = .ok value) {next : α → Reported β}
    (hnext : ∃ last, (next value).EndsWith last) :
    ∃ last, ((liftM first : Reported α) >>= next).EndsWith last :=
  @exists_bind _ _ (liftM first) _ hfirst _ hnext

-- ================================================= endings with reports

/-- A reported computation ends with a value after it has left out these, in this order. -/
def Reported.Reports (reported : Reported α) (omissions : List Omission) (value : α) : Prop :=
  reported = ⟨omissions, .ok value⟩

namespace Reported

variable {first : Reported α} {next : α → Reported β} {last : β} {omissions : List Omission}

theorem EndsWith.reports {value : α} (h : first.EndsWith value) :
    first.Reports first.omissions value := by
  obtain ⟨omissions, result⟩ := first
  cases h
  rfl

theorem Reports.endsWith {value : α} (h : first.Reports omissions value) :
    first.EndsWith value := by
  cases h
  rfl

/-- There is only one list of reports. -/
theorem Reports.omissions_eq {value : α} (h : first.Reports omissions value) :
    first.omissions = omissions := by
  cases h
  rfl

/-- What two steps leave out is what the first leaves out and then what the second does. -/
theorem Reports.of_bind (h : (first >>= next).Reports omissions last) :
    ∃ value before after, first.Reports before value ∧ (next value).Reports after last
      ∧ omissions = before ++ after := by
  obtain ⟨value, hfirst, hnext⟩ := EndsWith.of_bind h.endsWith
  refine ⟨value, first.omissions, (next value).omissions, hfirst.reports, hnext.reports, ?_⟩
  rw [← h.omissions_eq, bind_ok hfirst]

/-- The same, where the first step leaves nothing out. -/
theorem Reports.of_lift_bind {first : Except Refusal α}
    (h : ((liftM first : Reported α) >>= next).Reports omissions last) :
    ∃ value, first = .ok value ∧ (next value).Reports omissions last := by
  obtain ⟨value, before, after, hfirst, hnext, rfl⟩ := h.of_bind
  cases hfirst.omissions_eq
  exact ⟨value, hfirst.endsWith, hnext⟩

/-- The reports of two steps stand one behind the other. -/
theorem Reports.bind {value : α} {before after : List Omission} (h : first.Reports before value)
    (hnext : (next value).Reports after last) :
    (first >>= next).Reports (before ++ after) last := by
  cases h
  rw [bind_ok rfl, hnext]
  rfl

/-- And whatever two steps report can be taken apart into what each of them does. -/
theorem reports_bind_iff :
    (first >>= next).Reports omissions last ↔ ∃ value before after, first.Reports before value
      ∧ (next value).Reports after last ∧ omissions = before ++ after := by
  constructor
  · exact Reports.of_bind
  · intro h
    obtain ⟨value, before, after, hfirst, hnext, rfl⟩ := h
    exact hfirst.bind hnext

/-- A reported computation is refused after it has left out these, in this order. -/
def Refuses (reported : Reported α) (omissions : List Omission) (refusal : Refusal) : Prop :=
  reported = ⟨omissions, .error refusal⟩

/-- A computation whose result is a refusal refuses. -/
theorem refuses_of_result {refusal : Refusal} (h : first.result = .error refusal) :
    first.Refuses first.omissions refusal := by
  obtain ⟨omissions, result⟩ := first
  cases h
  rfl

/-- Two steps are refused in the first, or in the second after the first has ended. -/
theorem refuses_bind_iff {refusal : Refusal} :
    (first >>= next).Refuses omissions refusal ↔ first.Refuses omissions refusal
      ∨ ∃ value before after, first.Reports before value ∧ (next value).Refuses after refusal
          ∧ omissions = before ++ after := by
  obtain ⟨before, result⟩ := first
  cases result with
  | error other =>
    rw [bind_error rfl]
    constructor
    · intro h
      cases h
      exact .inl rfl
    · intro h
      rcases h with h | ⟨_, _, _, h, -, -⟩ <;> cases h
      rfl
  | ok value =>
    rw [bind_ok rfl]
    constructor
    · intro h
      refine .inr ⟨value, before, (next value).omissions, rfl, ?_, ?_⟩
      · exact refuses_of_result (congrArg Reported.result h)
      · exact (congrArg Reported.omissions h).symm
    · intro h
      rcases h with h | ⟨_, _, _, h, hnext, rfl⟩
      · cases h
      · cases h
        rw [hnext]
        rfl

end Reported

-- ================================================================ names

/-- A text that is made a name is the text of the name; one that cannot be is an invalid name. -/
theorem settles_ofText (s : String) : Settles (Name.ofText s) fun name => name.text = s := by
  cases h : Name.ofText s with
  | ok name => exact Settles.ok (Name.ofText_eq_ok_iff.1 h)
  | error refusal =>
    obtain ⟨-, rfl⟩ := Name.ofText_eq_error_iff.1 h
    exact Settles.error fun reason => by simp

/-- The text of a name is made that name. -/
theorem ofText_text (name : Name) : Name.ofText name.text = .ok name :=
  Name.ofText_eq_ok_iff.2 rfl

/-- The names that texts may have are those of the texts that are names. -/
theorem ofText_isOk_iff {s : String} :
    (∃ name, Name.ofText s = .ok name) ↔ isName s.toList = true := by
  constructor
  · intro h
    obtain ⟨name, h⟩ := h
    rw [← Name.ofText_eq_ok_iff.1 h]
    exact name.valid
  · intro h
    exact ⟨⟨s, h⟩, Name.ofText_eq_ok_iff.2 rfl⟩

end CrudGraph
