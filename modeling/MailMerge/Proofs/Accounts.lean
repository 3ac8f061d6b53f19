import MailMerge.Filling.Letter
import MailMerge.Proofs.Gauges

/-!
# What the counters say about letters

A caller may have letters filled in one session, or only look at templates. Every
letter that is to be filled is counted once, as filled or as failed, and a template
that is looked at is not counted at all. A letter that is filled has moreover met the
placeholders of its subject and of its body, and those of the items of their lists,
and each of them was counted once. The records of a list are those that its query finds
in the session in which the letter is begun.

The record and the template are fetched by work that only makes calls. Such work moves
no counter and leaves the session alike, so the two texts are filled as if they came
first.

Main facts:

* `aloof_load`: a template is fetched by calls alone;
* `adds_fillFor`: what a letter adds to a gauge;
* `letters_afterErrands`: the letters that were counted after a run;
* `letters_accounted`: the counters after every step of a run.
-/

namespace MailMerge

namespace Work

variable {ε ε' α β : Type} {w : Work ε α}

/-- Work that only makes calls, and comes out the same in all sessions. -/
structure Aloof (w : Work ε α) : Prop where
  outcome : ∀ s t, (w.perform s).1 = (w.perform t).1
  session : ∀ s, ∃ calls, (w.perform s).2 = { s with calls := calls }

theorem aloof_pure
    (a : α) :
    Aloof (pure a : Work ε α) := by
  constructor
  · intro s t
    rfl
  · intro s
    exact ⟨s.calls, rfl⟩

theorem aloof_fail
    (e : ε) :
    Aloof (fail e : Work ε α) := by
  constructor
  · intro s t
    rfl
  · intro s
    exact ⟨s.calls, rfl⟩

theorem aloof_retrieve
    (source : Source)
    (entity : Text) (id : Uuid) (columns : Columns) :
    Aloof (retrieve source entity id columns) := by
  constructor
  · intro s t
    rfl
  · intro s
    exact ⟨s.calls ++ [.retrieve entity id columns], rfl⟩

theorem aloof_search
    (source : Source)
    (query : Query) :
    Aloof (search source query) := by
  constructor
  · intro s t
    rfl
  · intro s
    exact ⟨s.calls ++ [.search query], rfl⟩

theorem Aloof.mapError
    (hw : Aloof w)
    (f : ε → ε') :
    Aloof (mapError f w) := by
  constructor
  · intro s t
    rw [perform_mapError_fst, perform_mapError_fst, hw.outcome s t]
  · intro s
    rw [perform_mapError_snd]
    exact hw.session s

theorem Aloof.bind
    {f : α → Work ε β}
    (hw : Aloof w)
    (hf : ∀ a, Aloof (f a)) :
    Aloof (w >>= f) := by
  constructor
  · intro s t
    have hout := hw.outcome s t
    rw [perform_bind, perform_bind]
    rcases h : w.perform s with ⟨e | a, s'⟩ <;>
      rcases h' : w.perform t with ⟨e' | a', t'⟩ <;>
      rw [h, h'] at hout <;>
      cases hout
    · rfl
    · exact (hf a).outcome s' t'
  · intro s
    obtain ⟨calls, hs⟩ := hw.session s
    rw [perform_bind]
    rcases h : w.perform s with ⟨e | a, s'⟩
    · rw [h] at hs
      exact ⟨calls, hs⟩
    · have hfirst : s' = { s with calls := calls } := by
        rw [h] at hs
        exact hs
      obtain ⟨calls', hs'⟩ := (hf a).session s'
      -- the calls are the only field that the second part finds changed
      exact ⟨calls', by rw [hs', hfirst]⟩

theorem Aloof.counters
    (hw : Aloof w)
    (s : Session) :
    (w.perform s).2.counters = s.counters := by
  obtain ⟨calls, hs⟩ := hw.session s
  rw [hs]

theorem Aloof.leaves
    {γ : Type} {read : Counters → γ}
    (hw : Aloof w) :
    Leaves read w := by
  intro s
  rw [hw.counters]

theorem Aloof.steady
    {describe : Descriptions}
    (hw : Aloof w) :
    Steady describe w := by
  constructor
  · intro s
    obtain ⟨calls, hs⟩ := hw.session s
    rw [hs]
    exact ⟨fun _ => rfl, fun _ _ => rfl, fun _ => rfl⟩
  · intro s t _
    exact hw.outcome s t

theorem Steady.mapError
    {describe : Descriptions}
    (hw : Steady describe w)
    (f : ε → ε') :
    Steady describe (mapError f w) := by
  constructor
  · intro s
    rw [perform_mapError_snd]
    exact hw.alike s
  · intro s t hst
    rw [perform_mapError_fst, perform_mapError_fst, hw.outcome s t hst]

end Work

namespace Filling

open Session Work

section Letters

variable {setup : Setup} {template : TemplateSource} {target : Reference}

theorem aloof_load
    (source : Source)
    (template : TemplateSource) :
    Aloof (load source template) := by
  unfold load
  cases template with
  | named title =>
      refine Aloof.bind ?_ fun raw => aloof_pure _
      refine ((aloof_search source (titleQuery title)).mapError _).bind ?_
      intro found
      rcases found with _ | ⟨r, _ | ⟨r', rs⟩⟩
      · exact aloof_fail _
      · exact aloof_pure _
      · exact aloof_fail _
  | user id =>
      refine Aloof.bind ?_ fun raw => aloof_pure _
      exact ((aloof_retrieve source _ id _).mapError _).bind fun r => aloof_pure _
  | unset =>
      exact (aloof_fail _).bind fun raw => aloof_pure _

/-- The counters of letters. -/
def lettersOf (c : Counters) : Nat × Nat × Nat :=
  (c.succeeded, c.durations, c.failed)

theorem leaves_expand
    (record : Record)
    (text : Text) :
    Leaves lettersOf (expand setup record text) := by
  have htextwise : Textwise setup.source setup.source fun _ w _ => Leaves lettersOf w := by
    refine textwise_leaves setup.source (fun _ => rfl) (fun _ => rfl) ?_ fun _ => rfl
    intro c kind
    cases kind <;> rfl
  exact htextwise.expand record text

/-- What is counted about letters is counted when a letter is done, and not before. -/
theorem leaves_fillFor :
    Leaves lettersOf (fillFor setup template target) := by
  unfold fillFor
  refine ((aloof_retrieve setup.source target.entity target.id .all).mapError _).leaves.bind ?_
  intro record
  refine (aloof_load setup.source template).leaves.bind ?_
  intro raw
  refine ((leaves_expand record raw.subject).mapError _).bind ?_
  intro subject
  refine ((leaves_expand record raw.body).mapError _).bind ?_
  intro body
  exact leaves_pure _

variable {s : Session} {record : Record} {raw letter : Letter}

/-- A letter that is filled has a record and a template, and with these its two texts are
filled, one after the other. -/
theorem exists_of_perform_fillFor
    (h : ((fillFor setup template target).perform s).1 = .ok letter) :
    ∃ record raw, setup.source.retrieve target.entity target.id .all = .ok record ∧
      ((load setup.source template).perform s).1 = .ok raw := by
  unfold fillFor at h
  rcases hrecord : setup.source.retrieve target.entity target.id .all with e | record
  · simp [hrecord] at h
  · simp only [perform_bind, perform_mapError, perform_retrieve, hrecord] at h
    have hload := (aloof_load setup.source template).outcome
      (s.record (.retrieve target.entity target.id .all)) s
    rcases hraw : (load setup.source template).perform
      (s.record (.retrieve target.entity target.id .all)) with ⟨e | raw, s'⟩
    · rw [hraw] at h
      cases h
    · rw [hraw] at hload
      exact ⟨record, raw, rfl, hload.symm⟩

/-- A letter adds to a gauge what its subject and its body add. -/
theorem adds_fillFor
    (g : Gauge)
    (hrecord : setup.source.retrieve target.entity target.id .all = .ok record)
    (hraw : ((load setup.source template).perform s).1 = .ok raw) :
    Adds setup.source.describe g s (fillFor setup template target)
      (tally g setup s setup.maxDepth record raw.subject +
        tally g setup s setup.maxDepth record raw.body) := by
  have hretrieve : Aloof (mapError TemplateError.store
      (retrieve setup.source target.entity target.id .all)) :=
    (aloof_retrieve setup.source target.entity target.id .all).mapError _
  have hload := aloof_load setup.source template
  unfold fillFor
  refine hretrieve.leaves.bind_adds hretrieve.steady ?_
  intro record' hrecord'
  simp only [perform_mapError, perform_retrieve, hrecord] at hrecord'
  obtain rfl := Except.ok.inj hrecord'
  -- the template is the one that is loaded in the session at the start
  refine hload.leaves.bind_adds hload.steady ?_
  intro raw' hraw'
  obtain rfl := Except.ok.inj (hraw.symm.trans hraw')
  refine Adds.bind ((adds_expandAt setup.maxDepth record raw.subject).mapError _)
    ((steady_expand setup record raw.subject).mapError _) ?_
  intro subject _
  refine ((adds_expandAt setup.maxDepth record raw.body).mapError _).bind_leaves ?_
  intro body
  exact leaves_pure _

end Letters

/-- What a caller asks for in a session of letters. -/
inductive Errand where
  /-- To fill the letter for a record. -/
  | fill (setup : Setup) (template : TemplateSource) (target : Reference)
  /-- To fill it, and to replace the caller's tokens in it. -/
  | fillWith (setup : Setup) (template : TemplateSource) (target : Reference)
      (tokens : Dict Text Text)
  /-- To look at the template. -/
  | raw (setup : Setup) (template : TemplateSource)

namespace Errand

/-- The work on an errand. -/
def work : Errand → Work TemplateError Letter
  | fill setup template target => Filling.fill setup template target
  | fillWith setup template target tokens => Filling.fillWith setup template target tokens
  | raw setup template => Filling.raw setup template

/-- What is to be filled on an errand, if anything is. -/
def order? : Errand → Option (Setup × TemplateSource × Reference)
  | fill setup template target => some (setup, template, target)
  | fillWith setup template target _ => some (setup, template, target)
  | raw _ _ => none

/-- The session after an errand, whether it came to an end or failed. -/
def after (r : Errand) (s : Session) : Session :=
  (r.work.perform s).2

/-- Whether a letter is filled on an errand. -/
def isFilled (r : Errand) (s : Session) : Bool :=
  r.order?.isSome && (r.work.perform s).1.isOk

/-- Whether a letter could not be filled. -/
def isFailed (r : Errand) (s : Session) : Bool :=
  r.order?.isSome && !(r.work.perform s).1.isOk

end Errand

/-- The session after several errands, one after the other. -/
def afterErrands (errands : List Errand) (s : Session) : Session :=
  errands.foldl (fun s r => r.after s) s

/-- How often something is the case in the session in which an errand is begun. -/
def timesOver (p : Errand → Session → Bool) : List Errand → Session → Nat
  | [], _ => 0
  | r :: rs, s => (p r s).toNat + timesOver p rs (r.after s)

section Steps

variable {setup : Setup} {template : TemplateSource} {target : Reference} {r : Errand}
variable {s : Session}

theorem perform_counted
    {ε α : Type}
    (w : Work ε α)
    (s : Session) :
    (counted w).perform s =
      ((w.perform s).1,
        (w.perform s).2.count (if (w.perform s).1.isOk then Counters.addSuccess
          else Counters.addFailure)) := by
  unfold counted perform
  dsimp only
  rcases w s with ⟨e | a, s'⟩ <;> rfl

/-- The tokens are replaced when the letter is done, and that changes nothing else. -/
theorem perform_work_of_order
    (h : r.order? = some (setup, template, target)) :
    ∃ f : Letter → Letter, r.work.perform s =
      (((fillFor setup template target).perform s).1.map f,
        ((fill setup template target).perform s).2) := by
  cases r with
  | fill setup' template' target' =>
      obtain ⟨rfl, rfl, rfl⟩ : setup' = setup ∧ template' = template ∧ target' = target := by
        simpa [Errand.order?] using h
      refine ⟨id, ?_⟩
      show (counted _).perform s = (_, ((counted _).perform s).2)
      rw [perform_counted]
      rcases ((fillFor setup' template' target').perform s).1 with e | letter <;> rfl
  | fillWith setup' template' target' tokens =>
      obtain ⟨rfl, rfl, rfl⟩ : setup' = setup ∧ template' = template ∧ target' = target := by
        simpa [Errand.order?] using h
      refine ⟨fun letter => ⟨Template.substitute tokens.members letter.subject,
        Template.substitute tokens.members letter.body⟩, ?_⟩
      show (fillWith _ _ _ _).perform s = _
      unfold fillWith
      rw [perform_bind_pure]
      unfold fill
      rw [perform_counted]
  | raw setup' template' =>
      cases h

theorem counters_after_of_no_order
    (h : r.order? = none) :
    (r.after s).counters = s.counters := by
  cases r with
  | fill setup' template' target' =>
      cases h
  | fillWith setup' template' target' tokens =>
      cases h
  | raw setup' template' =>
      exact (aloof_load setup'.source template').counters s

theorem counters_after_of_error
    {e : TemplateError}
    (h : r.order? = some (setup, template, target))
    (he : (r.work.perform s).1 = .error e) :
    (r.after s).counters = ((fillFor setup template target).perform s).2.counters.addFailure := by
  obtain ⟨f, hwork⟩ := perform_work_of_order (s := s) h
  unfold Errand.after
  rw [hwork] at he ⊢
  unfold fill
  rw [perform_counted]
  rcases hfill : ((fillFor setup template target).perform s).1 with e' | letter
  · rfl
  · rw [hfill] at he
    cases he

theorem counters_after_of_ok
    {letter : Letter}
    (h : r.order? = some (setup, template, target))
    (hletter : (r.work.perform s).1 = .ok letter) :
    (∃ filled, ((fillFor setup template target).perform s).1 = .ok filled) ∧
      (r.after s).counters =
        ((fillFor setup template target).perform s).2.counters.addSuccess := by
  obtain ⟨f, hwork⟩ := perform_work_of_order (s := s) h
  unfold Errand.after
  rw [hwork] at hletter ⊢
  unfold fill
  rw [perform_counted]
  rcases hfill : ((fillFor setup template target).perform s).1 with e | filled
  · rw [hfill] at hletter
    cases hletter
  · exact ⟨⟨filled, rfl⟩, rfl⟩

/-- A letter that could not be filled is counted as failed, and as nothing else. -/
theorem letters_after_of_error
    {e : TemplateError}
    (h : r.order? = some (setup, template, target))
    (he : (r.work.perform s).1 = .error e) :
    (r.after s).counters.succeeded = s.counters.succeeded ∧
      (r.after s).counters.durations = s.counters.durations ∧
      (r.after s).counters.failed = s.counters.failed + 1 := by
  have hleaves : lettersOf ((fillFor setup template target).perform s).2.counters =
      lettersOf s.counters :=
    leaves_fillFor s
  unfold lettersOf at hleaves
  simp only [Prod.mk.injEq] at hleaves
  obtain ⟨hsucceeded, hdurations, hfailed⟩ := hleaves
  rw [counters_after_of_error h he]
  exact ⟨hsucceeded, hdurations, congrArg (· + 1) hfailed⟩

/-- A letter that was filled is counted as filled, and so is the time that it took. -/
theorem letters_after_of_ok
    {letter : Letter}
    (h : r.order? = some (setup, template, target))
    (hletter : (r.work.perform s).1 = .ok letter) :
    (r.after s).counters.succeeded = s.counters.succeeded + 1 ∧
      (r.after s).counters.durations = s.counters.durations + 1 ∧
      (r.after s).counters.failed = s.counters.failed := by
  have hleaves : lettersOf ((fillFor setup template target).perform s).2.counters =
      lettersOf s.counters :=
    leaves_fillFor s
  unfold lettersOf at hleaves
  simp only [Prod.mk.injEq] at hleaves
  obtain ⟨hsucceeded, hdurations, hfailed⟩ := hleaves
  rw [(counters_after_of_ok h hletter).2]
  exact ⟨congrArg (· + 1) hsucceeded, congrArg (· + 1) hdurations, hfailed⟩

/-- A letter that was filled has met the placeholders of its texts and of the items in
them. -/
theorem placeholders_after_of_ok
    {letter : Letter}
    (h : r.order? = some (setup, template, target))
    (hletter : (r.work.perform s).1 = .ok letter) :
    ∃ record raw, setup.source.retrieve target.entity target.id .all = .ok record ∧
      ((load setup.source template).perform s).1 = .ok raw ∧
      (r.after s).counters.met = s.counters.met +
        (metIn setup s setup.maxDepth record raw.subject +
          metIn setup s setup.maxDepth record raw.body) ∧
      (r.after s).counters.unresolved = s.counters.unresolved +
        (leftOpenIn setup s setup.maxDepth record raw.subject +
          leftOpenIn setup s setup.maxDepth record raw.body) := by
  obtain ⟨⟨filled, hfilled⟩, hafter⟩ := counters_after_of_ok h hletter
  obtain ⟨record, raw, hrecord, hraw⟩ := exists_of_perform_fillFor hfilled
  have hmet := adds_fillFor .met hrecord hraw s filled (Alike.refl s) hfilled
  have hopen := adds_fillFor .leftOpen hrecord hraw s filled (Alike.refl s) hfilled
  rw [tally_met, tally_met] at hmet
  rw [tally_leftOpen, tally_leftOpen] at hopen
  refine ⟨record, raw, hrecord, hraw, ?_, ?_⟩
  · rw [hafter]
    exact hmet
  · rw [hafter]
    exact hopen

end Steps

/-- The letters that were counted in a session after a run. -/
theorem letters_afterErrands
    (errands : List Errand)
    (s : Session) :
    (afterErrands errands s).counters.succeeded =
        s.counters.succeeded + timesOver Errand.isFilled errands s ∧
      (afterErrands errands s).counters.durations =
        s.counters.durations + timesOver Errand.isFilled errands s ∧
      (afterErrands errands s).counters.failed =
        s.counters.failed + timesOver Errand.isFailed errands s := by
  induction errands generalizing s with
  | nil =>
      exact ⟨rfl, rfl, rfl⟩
  | cons r rs ih =>
      obtain ⟨hsucceeded, hdurations, hfailed⟩ := ih (r.after s)
      unfold timesOver
      have hrun : afterErrands (r :: rs) s = afterErrands rs (r.after s) := rfl
      rw [hrun, hsucceeded, hdurations, hfailed]
      -- what the first errand counts depends on whether a letter is filled on it
      unfold Errand.isFilled Errand.isFailed
      rcases horder : r.order? with _ | ⟨setup, template, target⟩
      · rw [counters_after_of_no_order horder]
        simp
      · rcases hout : (r.work.perform s).1 with e | letter
        · obtain ⟨hfilled, htimed, hvain⟩ := letters_after_of_error horder hout
          simp [Except.isOk, Except.toBool]
          omega
        · obtain ⟨hfilled, htimed, hvain⟩ := letters_after_of_ok horder hout
          simp [Except.isOk, Except.toBool]
          omega

/-- The counters account for every letter and for every placeholder. After any run as many
letters have been counted as filled as were filled, and as failed as were not. At each step
of it a template that is looked at changes no counter, a letter that fails is counted as
failed only, and a letter that is filled is counted as filled once, with the time that it
took, and has met each placeholder of its subject and its body once and each part of the
items of their lists that is not empty, of which it has left open the links that point
nowhere for the record at hand. -/
theorem letters_accounted
    (errands : List Errand)
    (s : Session) :
    ((afterErrands errands s).counters.succeeded =
        s.counters.succeeded + timesOver Errand.isFilled errands s ∧
      (afterErrands errands s).counters.durations =
        s.counters.durations + timesOver Errand.isFilled errands s ∧
      (afterErrands errands s).counters.failed =
        s.counters.failed + timesOver Errand.isFailed errands s) ∧
    ∀ before r later, errands = before ++ r :: later →
      let t := afterErrands before s
      let c := t.counters
      let c' := (r.after t).counters
      (r.order? = none → c' = c) ∧
      ∀ setup template target, r.order? = some (setup, template, target) →
        (∀ e, (r.work.perform t).1 = .error e →
          c'.succeeded = c.succeeded ∧ c'.durations = c.durations ∧
            c'.failed = c.failed + 1) ∧
        ∀ letter, (r.work.perform t).1 = .ok letter →
          (c'.succeeded = c.succeeded + 1 ∧ c'.durations = c.durations + 1 ∧
            c'.failed = c.failed) ∧
          ∃ record raw, setup.source.retrieve target.entity target.id .all = .ok record ∧
            ((load setup.source template).perform t).1 = .ok raw ∧
            c'.met = c.met +
              (metIn setup t setup.maxDepth record raw.subject +
                metIn setup t setup.maxDepth record raw.body) ∧
            c'.unresolved = c.unresolved +
              (leftOpenIn setup t setup.maxDepth record raw.subject +
                leftOpenIn setup t setup.maxDepth record raw.body) := by
  refine ⟨letters_afterErrands errands s, ?_⟩
  intro before r later _ t c c'
  refine ⟨counters_after_of_no_order, ?_⟩
  intro setup template target horder
  constructor
  · intro e he
    exact letters_after_of_error horder he
  · intro letter hletter
    exact ⟨letters_after_of_ok horder hletter, placeholders_after_of_ok horder hletter⟩

/-- A template with a list, of which the items show a subject, an empty part and a link. -/
def reminderTexts : Letter :=
  ⟨"%;name;%".toList,
    "%;RELATED_task-deal-ym_a--REF_RECORD_URL_by|x;% %;REF_RECORD_URL_by|x;%".toList⟩

/-- The letter that it makes of a deal with two tasks. -/
def reminderLetter : Letter :=
  ⟨[], ("<ul><li>%;;%%;REF_RECORD_URL_by|x;%</li><li>%;;%%;REF_RECORD_URL_by|x;%</li></ul> " ++
    "%;REF_RECORD_URL_by|x;%").toList⟩

def reminderDeal : Record :=
  ⟨"deal".toList, ⟨1⟩, .empty⟩

/-- The deal, its tasks and the template. -/
def reminderStore : Store :=
  .ofSeed ⟨[reminderDeal,
    ⟨"task".toList, ⟨2⟩, Keyed.ofList [("deal".toList, .id ⟨1⟩)]⟩,
    ⟨"task".toList, ⟨3⟩, Keyed.ofList [("deal".toList, .id ⟨1⟩)]⟩,
    ⟨userTemplateEntity, ⟨9⟩, Keyed.ofList
      [("ym_clean_subject".toList, .text reminderTexts.subject),
       ("ym_clean_template".toList, .text reminderTexts.body)]⟩], []⟩

def reminderSetup : Setup :=
  setupOver reminderStore.toSource

/-- To look at the template. -/
def lookErrand : Errand :=
  .raw reminderSetup (.user ⟨9⟩)

/-- To fill it for the deal. -/
def fillErrand : Errand :=
  .fill reminderSetup (.user ⟨9⟩) ⟨"deal".toList, ⟨1⟩, none⟩

/-- To fill it for a deal that is not there. -/
def vainErrand : Errand :=
  .fillWith reminderSetup (.user ⟨9⟩) ⟨"deal".toList, ⟨5⟩, none⟩ .empty

/-- One letter is filled and one is not; the first meets three placeholders, and two in each
of two items, of which the link is left open like the one of the deal. -/
theorem letters_accounted_for_reminders :
    (afterErrands [lookErrand, fillErrand, vainErrand] .fresh).counters.succeeded = 1 ∧
    (afterErrands [lookErrand, fillErrand, vainErrand] .fresh).counters.failed = 1 ∧
    (lookErrand.after (afterErrands [] .fresh)).counters = .zero ∧
    (fillErrand.after (afterErrands [lookErrand] .fresh)).counters.met = 7 ∧
    (fillErrand.after (afterErrands [lookErrand] .fresh)).counters.unresolved = 3 := by
  obtain ⟨⟨hsucceeded, -, hfailed⟩, hsteps⟩ :=
    letters_accounted [lookErrand, fillErrand, vainErrand] .fresh
  have hlook := (hsteps [] lookErrand [fillErrand, vainErrand] rfl).1 rfl
  have hletter :
      (fillErrand.work.perform (afterErrands [lookErrand] .fresh)).1 = .ok reminderLetter := by
    decide +kernel
  obtain ⟨-, record, raw, hrecord, htemplate, hmet, hopen⟩ :=
    ((hsteps [lookErrand] fillErrand [vainErrand] rfl).2 _ _ _ rfl).2 reminderLetter hletter
  obtain rfl : reminderDeal = record :=
    Except.ok.inj (Eq.trans (by decide +kernel) hrecord)
  obtain rfl : reminderTexts = raw :=
    Except.ok.inj (Eq.trans (by decide +kernel) htemplate)
  refine ⟨?_, ?_, hlook, ?_, ?_⟩
  · rw [hsucceeded]
    decide +kernel
  · rw [hfailed]
    decide +kernel
  · refine Eq.trans hmet ?_
    decide +kernel
  · refine Eq.trans hopen ?_
    decide +kernel

end Filling

end MailMerge
