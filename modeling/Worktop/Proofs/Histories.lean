import Worktop.Proofs.Journal

/-! # From history to history

What an act may do can depend on all that was done before. A history is the events of a whole
operation so far, latest first; an act that may fail carries every history of one kind to one of
another kind, as far as it succeeds (`Worktop.Act.Carries`), and so does a part of an addition,
along with its progress (`Worktop.Lifecycle.Adding.Carries`). Parts are put together where the kind
of history that one leaves is the kind that the next one expects. Polling keeps what each check and
each pause keep (`Worktop.Act.carries_poll`).
-/

namespace Worktop

variable {ω α β ε : Type}

namespace Act

/-- After any history that is as `before` says, an act leaves one that is as `after` says of what it
gives, or as `failed` says where it fails. -/
def Carries (act : ExceptT ε (Act ω) α) (before : List Event → Prop) (after : α → List Event → Prop)
    (failed : List Event → Prop) : Prop :=
  ∀ old, before old → Emits act.run fun new result =>
    match result with
    | .ok a => after a (new ++ old)
    | .error _ => failed (new ++ old)

variable {before : List Event → Prop} {after : α → List Event → Prop}
  {final : β → List Event → Prop} {failed : List Event → Prop}

theorem carries_ok {a : α} (holds : ∀ old, before old → after a old) :
    Carries (pure a : ExceptT ε (Act ω) α) before after failed :=
  fun old given => emits_ok (holds old given)

theorem carries_error {e : ε} (holds : ∀ old, before old → failed old) :
    Carries (throw e : ExceptT ε (Act ω) α) before after failed :=
  fun old given => emits_error (holds old given)

theorem Carries.of_imp {act : ExceptT ε (Act ω) α} {weaker : List Event → Prop}
    (carries : Carries act before after failed) (implies : ∀ old, weaker old → before old) :
    Carries act weaker after failed :=
  fun old given => carries old (implies old given)

theorem Carries.andThen {x : ExceptT ε (Act ω) α} {f : α → ExceptT ε (Act ω) β}
    (first : Carries x before after failed) (second : ∀ a, Carries (f a) (after a) final failed) :
    Carries (x >>= f) before final failed := by
  intro old given
  refine (first old given).andThen (fun a new holds => ?_) fun e new holds => holds
  apply (second a (new ++ old) holds).mono
  intro newer result holds
  rw [List.append_assoc]
  exact holds

/-- A command is run, and what follows depends on the reply. -/
theorem carries_reply {command : Command} {f : Reply → ExceptT ε (Act ω) α}
    {between : Reply → List Event → Prop}
    (ran : ∀ reply old, before old → between reply (.ran command reply :: old))
    (rest : ∀ reply, Carries (f reply) (between reply) after failed) :
    Carries (ExceptT.lift (exec command) >>= f) before after failed := by
  intro old given
  apply emits_reply
  intro reply
  apply (rest reply _ (ran reply old given)).mono
  intro new result holds
  rw [List.append_assoc]
  exact holds

/-- However often it is checked, what every check and every pause keep is kept until a check
succeeds. -/
theorem carries_pollFrom (p : Poller) {check : Act ω Bool} {before after : List Event → Prop}
    (checks : ∀ old, before old → check.Emits fun new found =>
      if found then after (new ++ old) else before (new ++ old))
    (pauses : ∀ duration old, before old → before (.paused duration :: old)) (remaining : Nat) :
    ∀ old, before old → Emits (p.pollFrom pause check remaining) fun new found =>
      if found then after (new ++ old) else before (new ++ old) := by
  induction remaining using Nat.strongRecOn with
  | ind remaining ih =>
    intro old given
    rw [Poller.pollFrom]
    apply (checks old given).bind
    intro found new holds
    cases found with
    | true => exact emits_pure holds
    | false =>
      simp only [Bool.false_eq_true, ↓reduceIte] at holds ⊢
      split
      · exact emits_pure holds
      · rename_i left
        have shorter : remaining - min p.step remaining < remaining := by
          have : 1 ≤ p.step := Nat.le_max_right ..
          omega
        apply (emits_pause _).bind
        rintro _ _ rfl
        apply (ih _ shorter _ (pauses _ _ holds)).mono
        intro newer found holds
        simpa using holds

theorem carries_poll (p : Poller) (what : String) {check : Act ω Bool}
    {before after : List Event → Prop}
    (checks : ∀ old, before old → check.Emits fun new found =>
      if found then after (new ++ old) else before (new ++ old))
    (pauses : ∀ duration old, before old → before (.paused duration :: old))
    (givesUp : ∀ old, before old → failed old) :
    Carries (ExceptT.mk (p.poll what pause check)) before (fun _ => after) failed := by
  intro old given
  apply (carries_pollFrom p checks pauses p.timeout old given).bind
  intro found new holds
  cases found with
  | true => exact emits_pure holds
  | false => exact emits_pure (givesUp _ (by simpa using holds))

end Act

namespace Lifecycle.Adding

/-- After any progress and history that are as `before` says, a part of an addition leaves some that
are as `after` says of what it gives, or a history that is as `failed` says where it fails. -/
def Carries (part : Adding ω α) (before : Progress → List Event → Prop)
    (after : α → Progress → List Event → Prop) (failed : List Event → Prop) : Prop :=
  ∀ progress old, before progress old → part.Emits progress fun new result progress =>
    match result with
    | .ok a => after a progress (new ++ old)
    | .error _ => failed (new ++ old)

variable {before : Progress → List Event → Prop} {after : α → Progress → List Event → Prop}
  {final : β → Progress → List Event → Prop} {failed : List Event → Prop}

theorem carries_pure {a : α} (holds : ∀ progress old, before progress old → after a progress old) :
    Carries (pure a : Adding ω α) before after failed :=
  fun progress old given => emits_pure (holds progress old given)

theorem Carries.bind {x : Adding ω α} {f : α → Adding ω β} (first : x.Carries before after failed)
    (second : ∀ a, (f a).Carries (after a) final failed) :
    Carries (x >>= f) before final failed := by
  intro progress old given
  refine (first progress old given).bind (fun a between new holds => ?_)
    fun e between new holds => holds
  apply (second a between (new ++ old) holds).mono
  intro newer result last holds
  rw [List.append_assoc]
  exact holds

/-- What is known besides the history may be used. -/
theorem carries_of_fact {part : Adding ω α} {fact : Prop}
    (carries : fact → part.Carries before after failed) :
    part.Carries (fun progress old => fact ∧ before progress old) after failed :=
  fun progress old given => carries given.1 progress old given.2

theorem carries_modify {change : Progress → Progress} {done : Unit → Progress → List Event → Prop}
    (holds : ∀ progress old, before progress old → done () (change progress) old) :
    Carries (modify change : Adding ω Unit) before done failed :=
  fun progress old given => Act.emits_pure (holds progress old given)

theorem carries_lift {act : Act ω α}
    (emits : ∀ progress old, before progress old →
      act.Emits fun new a => after a progress (new ++ old)) :
    Carries (lift act) before after failed :=
  fun progress old given => emits_lift (emits progress old given) fun _ _ holds => holds

theorem carries_attempt {act : ExceptT ε (Act ω) α} (blame : ε → Error)
    (carries : ∀ progress, Act.Carries act (before progress) (fun a => after a progress) failed) :
    Carries (attempt act blame) before after failed := by
  intro progress old given
  unfold attempt
  apply emits_lift_bind (carries progress old given)
  intro result new holds
  cases result with
  | ok a => exact emits_pure holds
  | error e => exact emits_throw holds

end Lifecycle.Adding

end Worktop
