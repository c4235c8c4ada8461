/-! Runs of a system of interleaved steps. An action that is not enabled has no next
state; the actions taken are listed with the latest first. -/
namespace Transitions

variable {S A : Type} {next : S → A → Option S} {start s : S}

/-- The state after a sequence of actions, when each was enabled in its turn. -/
def reached (next : S → A → Option S) (start : S) : List A → Option S
  | [] => some start
  | a :: past => (reached next start past).bind (next · a)

theorem reached_cons {a : A} {past : List A} (run : reached next start (a :: past) = some s) :
    ∃ before, reached next start past = some before ∧ next before a = some s :=
  Option.bind_eq_some_iff.mp run

theorem reached_append (later earlier : List A) :
    reached next start (later ++ earlier) =
      (reached next start earlier).bind fun before => reached next before later := by
  induction later with
  | nil =>
    rw [List.nil_append]
    cases reached next start earlier <;> rfl
  | cons a later ih =>
    rw [List.cons_append, reached, ih, Option.bind_assoc]
    rfl

theorem reached_induction {I : List A → S → Prop} (initial : I [] start)
    (keeps : ∀ {past before a after}, reached next start past = some before → I past before →
      next before a = some after → I (a :: past) after)
    {past : List A} (run : reached next start past = some s) : I past s := by
  induction past generalizing s with
  | nil =>
    cases run
    exact initial
  | cons a past ih =>
    obtain ⟨before, earlier, taken⟩ := reached_cons run
    exact keeps earlier (ih earlier) taken

theorem reached_invariant {I : List A → S → Prop} (initial : I [] start)
    (keeps : ∀ {past before a after}, I past before → next before a = some after →
      I (a :: past) after)
    {past : List A} (run : reached next start past = some s) : I past s :=
  reached_induction initial (fun _ held taken => keeps held taken) run

/-- When each step of a system is a step of another one, or shows nothing there, its runs are
runs of the other one. -/
theorem reached_project {T B : Type} {next' : T → B → Option T} {start' : T} (view : S → T)
    (shown : A → Option B) (initial : view start = start')
    (follows : ∀ {before a after}, next before a = some after →
      (∃ b, shown a = some b ∧ next' (view before) b = some (view after)) ∨
        (shown a = none ∧ view after = view before))
    {past : List A} (run : reached next start past = some s) :
    reached next' start' (past.filterMap shown) = some (view s) := by
  refine reached_invariant (I := fun past s => reached next' start' (past.filterMap shown) =
    some (view s)) ?_ ?_ run
  · rw [List.filterMap_nil, reached, initial]
  · intro past before a after held taken
    rcases follows taken with ⟨b, seen, step⟩ | ⟨unseen, same⟩
    · rw [List.filterMap_cons_some seen, reached, held, Option.bind_some, step]
    · rw [List.filterMap_cons_none unseen, same, held]

def Throughout (next : S → A → Option S) (start : S) (I : List A → S → Prop) (past : List A) : Prop :=
  ∀ earlier s, earlier <:+ past → reached next start earlier = some s → I earlier s

/-- `Q` holds of every action of the run, in the state in which it was taken. -/
def EachStep (next : S → A → Option S) (start : S) (Q : List A → S → A → Prop) (past : List A) :
    Prop :=
  ∀ a earlier before after, a :: earlier <:+ past → reached next start earlier = some before →
    next before a = some after → Q earlier before a

def Took (next : S → A → Option S) (start : S) (past : List A) (a : A) (s : S) : Prop :=
  ∃ earlier, a :: earlier <:+ past ∧ reached next start earlier = some s

theorem Took.now {a : A} {past : List A} (run : reached next start past = some s) :
    Took next start (a :: past) a s := ⟨past, List.suffix_refl _, run⟩

theorem Took.later {a b : A} {past : List A} (took : Took next start past a s) :
    Took next start (b :: past) a s := by
  obtain ⟨earlier, part, run⟩ := took
  exact ⟨earlier, part.trans (List.suffix_cons b past), run⟩

theorem EachStep.earlier {Q : List A → S → A → Prop} {past earlier : List A}
    (each : EachStep next start Q past) (part : earlier <:+ past) : EachStep next start Q earlier :=
  fun a before s after inside => each a before s after (inside.trans part)

theorem each_of_forall {Q : List A → S → A → Prop} {past : List A}
    (all : ∀ a ∈ past, ∀ earlier s, Q earlier s a) : EachStep next start Q past :=
  fun a earlier before _ part _ _ => all a (part.subset List.mem_cons_self) earlier before

theorem each_iff_of_total {f : S → A → S} {Q : A → Prop} (past : List A) :
    EachStep (fun s a => some (f s a)) start (fun _ _ a => Q a) past ↔ ∀ a ∈ past, Q a := by
  have total : ∀ done, ∃ s, reached (fun s a => some (f s a)) start done = some s := by
    intro done
    induction done with
    | nil => exact ⟨start, rfl⟩
    | cons a done ih =>
      obtain ⟨s, run⟩ := ih
      exact ⟨f s a, by rw [reached, run, Option.bind_some]⟩
  constructor
  · intro each a mem
    obtain ⟨later, earlier, rfl⟩ := List.append_of_mem mem
    obtain ⟨s, run⟩ := total earlier
    exact each a earlier s (f s a) (List.suffix_append later _) run rfl
  · exact fun all => each_of_forall fun a mem _ _ => all a mem

theorem each_induction {I : List A → S → Prop} {Q : List A → S → A → Prop} (initial : I [] start)
    (keeps : ∀ {past before a after}, reached next start past = some before → I past before →
      Q past before a → next before a = some after → I (a :: past) after)
    {past : List A} (run : reached next start past = some s) (each : EachStep next start Q past) :
    I past s := by
  induction past generalizing s with
  | nil =>
    cases run
    exact initial
  | cons a past ih =>
    obtain ⟨before, ran, taken⟩ := reached_cons run
    have held := ih ran (each.earlier (List.suffix_cons a past))
    exact keeps ran held (each a past before s (List.suffix_refl _) ran taken) taken

/-- A property that the steps with `Q` keep, and every other step breaks, holds all along the
runs whose steps have `Q`, and along no others. -/
theorem throughout_iff {I : List A → S → Prop} {Q : List A → S → A → Prop} (initial : I [] start)
    (keeps : ∀ {past before a after}, reached next start past = some before → I past before →
      Q past before a → next before a = some after → I (a :: past) after)
    (breaks : ∀ {past before a after}, reached next start past = some before →
      next before a = some after → I (a :: past) after → Q past before a) (past : List A) :
    Throughout next start I past ↔ EachStep next start Q past := by
  constructor
  · intro always a earlier before after part ran taken
    have run : reached next start (a :: earlier) = some after := by
      rw [reached, ran]
      exact taken
    exact breaks ran taken (always (a :: earlier) after part run)
  · intro each earlier s part ran
    exact each_induction initial keeps ran (each.earlier part)

end Transitions
