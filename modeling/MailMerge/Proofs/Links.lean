import MailMerge.Proofs.Digits
import MailMerge.Proofs.Rendering
import MailMerge.Store.Memory

/-!
# Links tell records apart

The address of a record is put together without any escaping: the base, the entity and the
identifier, with slashes between them. The entity may hold slashes itself. The address can
be taken apart all the same, from its end: an identifier is always written with as many
characters, and the base is the same for all records. So two records have one address only
when they are one record. Slashes at the end of the base are of no account, however many
there are.

A link is the address and the text of the directive with fixed markup around them. Of two
links with the same text the addresses are the same when the links are, so that they lead
to the same record, whichever way each of them names it.

Main facts:

* `Link.path_eq_iff`: an address tells the record;
* `rendering_eq_link_iff`: when and as what a link is shown;
* `links_tell_records`: links with the same text tell the record.
-/

namespace MailMerge

namespace Link

variable {base entity entity' : Text} {id id' : Uuid}

/-- Identifiers are written in one width, so an address is taken apart from its end. -/
theorem path_eq_iff :
    path base entity id = path base entity' id' ↔ entity = entity' ∧ id = id' := by
  constructor
  · intro h
    unfold path at h
    rw [List.append_assoc, List.append_assoc] at h
    -- what stands behind the entity has one length, so the entities end at the same place
    obtain ⟨hfront, hbehind⟩ := List.append_inj' (List.append_cancel_left h)
      (by rw [List.length_cons, List.length_cons, id.length_text, id'.length_text])
    exact ⟨(List.cons.inj hfront).2, Uuid.text_injective (List.cons.inj hbehind).2⟩
  · rintro ⟨rfl, rfl⟩
    rfl

theorem path_append_slashes
    (n : Nat)
    (base entity : Text)
    (id : Uuid) :
    path (base ++ List.replicate n '/') entity id = path base entity id := by
  induction n with
  | zero =>
      rw [List.replicate_zero, List.append_nil]
  | succ n ih =>
      rw [List.replicate_succ', ← List.append_assoc, path_append_slash, ih]

/-- The markup around an address and a text is fixed. -/
theorem anchor_left_injective
    (text : Text) :
    Function.Injective fun address => anchor address text := by
  intro a b h
  unfold anchor at h
  exact List.append_cancel_left (List.append_cancel_right (List.append_cancel_right
    (List.append_cancel_right h)))

end Link

namespace Template.Directive

/-- The text of a link; other directives have none. -/
def linkText? : Directive → Option Text
  | referenceLink _ text => some text
  | recordLink text => some text
  | _ => none

end Template.Directive

namespace Filling

open Template Work

/-- Where a link leads: to the record at hand, or to the one that a field points at. -/
inductive LinksTo (record : Record) : Directive → Text × Uuid → Prop where
  | recordLink (text : Text) : LinksTo record (.recordLink text) record.key
  | referenceLink {field : Text} {target : Reference} (text : Text)
      (hfield : Text.blank field = false) (htarget : record.reference? field = some target) :
      LinksTo record (.referenceLink field text) (target.entity, target.id)

section Links

variable {setup : Setup} {record : Record} {s : Session}

/-- A link is shown exactly when it leads to a record, and then as the address of that
record with its text. -/
theorem render_eq_link_iff
    (list : Text → Text → List Text → Work StoreError Text)
    {directive : Directive} {text : Text}
    (hlink : directive.linkText? = some text)
    (shown : Text) :
    ((render setup list record directive).perform s).1 = .ok (some shown) ↔
      ∃ target, LinksTo record directive target ∧
        shown = Link.anchor (setup.address setup.baseAddress target.1 target.2) text := by
  cases directive with
  | referenceLink field text' =>
      obtain rfl := Option.some.inj hlink
      constructor
      · intro h
        rcases hblank : Text.blank field with _ | _
        · rcases htarget : record.reference? field with _ | target
          · simp [render, hblank, htarget] at h
          · refine ⟨_, .referenceLink _ hblank htarget, ?_⟩
            simpa [render, hblank, htarget, eq_comm] using h
        · simp [render, hblank] at h
      · rintro ⟨_, ⟨⟩ | ⟨_, hblank, htarget⟩, rfl⟩
        simp [render, hblank, htarget]
  | recordLink text' =>
      obtain rfl := Option.some.inj hlink
      constructor
      · intro h
        refine ⟨_, .recordLink _, ?_⟩
        simpa [render, Record.key, eq_comm] using h
      · rintro ⟨_, ⟨⟩, rfl⟩
        rfl
  | related entity key parts => cases hlink
  | malformedRelated => cases hlink
  | field path => cases hlink

/-- A link is shown alike at any depth and in any session. -/
theorem rendering_eq_link_iff
    (depth : Nat)
    {p text : Text}
    (hlink : (directiveOf p).linkText? = some text)
    (shown : Text) :
    rendering setup depth record s p = .ok (some shown) ↔
      ∃ target, LinksTo record (directiveOf p) target ∧
        shown = Link.anchor (setup.address setup.baseAddress target.1 target.2) text := by
  cases depth with
  | zero => exact render_eq_link_iff _ hlink shown
  | succ depth => exact render_eq_link_iff _ hlink shown

end Links

/-- Under one base two records have the same address only when they are the same, and
slashes at the end of the base change no address. So two links with the same text, of either
kind and for any records, are shown alike exactly when they lead to the same record. -/
theorem links_tell_records :
    (∀ base entity entity' id id',
      Link.path base entity id = Link.path base entity' id' ↔ entity = entity' ∧ id = id') ∧
    (∀ n base entity id,
      Link.path (base ++ List.replicate n '/') entity id = Link.path base entity id) ∧
    (∀ (setup : Setup), setup.address = Link.path →
      ∀ (depth depth' : Nat) (record record' : Record) (s s' : Session) (p p' text : Text),
        (directiveOf p).linkText? = some text → (directiveOf p').linkText? = some text →
        ((∃ shown, rendering setup depth record s p = .ok (some shown) ∧
            rendering setup depth' record' s' p' = .ok (some shown)) ↔
          ∃ target, LinksTo record (directiveOf p) target ∧
            LinksTo record' (directiveOf p') target)) := by
  refine ⟨fun _ _ _ _ _ => Link.path_eq_iff, Link.path_append_slashes, ?_⟩
  intro setup haddress depth depth' record record' s s' p p' text hp hp'
  simp only [rendering_eq_link_iff _ hp, rendering_eq_link_iff _ hp', haddress]
  constructor
  · rintro ⟨_, ⟨target, hpoints, rfl⟩, ⟨target', hpoints', hshown⟩⟩
    have hpath := Link.anchor_left_injective text hshown
    obtain ⟨hentity, hid⟩ := Link.path_eq_iff.1 hpath
    obtain rfl : target = target' := Prod.ext hentity hid
    exact ⟨target, hpoints, hpoints'⟩
  · rintro ⟨target, hpoints, hpoints'⟩
    exact ⟨_, ⟨target, hpoints, rfl⟩, target, hpoints', rfl⟩

/-- A deal whose entity is written with a slash. -/
def wonDeal : Record :=
  ⟨"deal/won".toList, ⟨1⟩, .empty⟩

/-- A task that belongs to that deal. -/
def dealTask : Record :=
  ⟨"task".toList, ⟨2⟩, Keyed.ofList [("deal_id".toList, .reference ⟨"deal/won".toList, ⟨1⟩, none⟩)]⟩

theorem links_tell_wonDeal :
    let setup := setupOver Store.empty.toSource
    let here := "%;RECORD_URL|Open;%".toList
    let there := "%; <b>REF_RECORD_URL_deal_id</b>|of|Open ;%".toList
    let shown := " <a href=\"https://crm/deal/won/00000000-0000-0000-0000-000000000001\">Open</a> "
    setup.address = Link.path ∧
    (directiveOf here).linkText? = some "Open".toList ∧
    (directiveOf there).linkText? = some "Open".toList ∧
    rendering setup 0 wonDeal .fresh here = .ok (some shown.toList) ∧
    rendering setup 8 dealTask .fresh there = .ok (some shown.toList) ∧
    ∃ target, LinksTo wonDeal (directiveOf here) target ∧
      LinksTo dealTask (directiveOf there) target := by
  intro setup here there shown
  have haddress : setup.address = Link.path := rfl
  have hhere : (directiveOf here).linkText? = some "Open".toList := by decide +kernel
  have hthere : (directiveOf there).linkText? = some "Open".toList := by decide +kernel
  have hshown : rendering setup 0 wonDeal .fresh here = .ok (some shown.toList) := by
    decide +kernel
  have hshown' : rendering setup 8 dealTask .fresh there = .ok (some shown.toList) := by
    decide +kernel
  obtain ⟨-, -, hlinks⟩ := links_tell_records
  have hpoints := (hlinks setup haddress 0 8 wonDeal dealTask .fresh .fresh here there _ hhere
    hthere).1 ⟨_, hshown, hshown'⟩
  exact ⟨haddress, hhere, hthere, hshown, hshown', hpoints⟩

end Filling

end MailMerge
