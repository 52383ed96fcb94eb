import Mathlib.Data.List.Induction
import PSMoveInput.KeyMapConfig
import PSMoveInput.KeyTransitions

/-! The level of a key code: down after a press signal, up after a release signal. Several
buttons may drive one code, so its level can lag behind the buttons that are held. -/
namespace PSMoveInput

open Transducer EdgeTrace

def codeKey (code : ℤ) : Event → Option Bool
  | .signal _ (.key lincode pressed) => if lincode = code then some pressed else none
  | _ => none

/-- The key signals for a code, from all entries. -/
def codeKeys (code : ℤ) (es : List Event) : List Bool := es.filterMap (codeKey code)

/-- The last key signal for the code was a press. -/
def keyDown (code : ℤ) (es : List Event) : Bool := level false (codeKeys code es)

/-- Some controller holds a button mapped to the code. -/
def CodeHeld (P : Params) (code : ℤ) (words : ControllerId → Word) : Prop :=
  ∃ controller, HeldBy (P.keymap controller) code (words controller)

theorem codeKeys_entry {code : ℤ} (hkey : code ≤ keyMax) (c : ControllerId) (i : Word)
    (pressed : Bool) (entry : KeyMapEntry × ℕ) :
    codeKeys code (entryEvents c i pressed entry) =
      if entry.1.pscode = i ∧ entry.1.lincode = code then [pressed] else [] := by
  simp only [codeKeys, entryEvents]
  by_cases hi : entry.1.pscode = i
  · by_cases hcode : entry.1.lincode = code
    · rw [hcode, entrySignals_ordinary hkey]
      simp only [hi, ↓reduceIte, List.map_cons, List.map_nil, List.filterMap_cons, codeKey,
        List.filterMap_nil, and_self]
    · rw [if_pos hi, if_neg (fun h => hcode h.2), List.filterMap_map,
        List.filterMap_eq_nil_iff]
      intro sig hsig
      -- the only key that the entry can send has its own code
      unfold entrySignals at hsig
      split_ifs at hsig <;> simp_all [codeKey]
  · rw [if_neg hi, if_neg (fun h => hi h.1)]
    rfl

theorem codeKeys_transition (P : Params) {code : ℤ} (hkey : code ≤ keyMax) (c : ControllerId)
    (before after : Word) :
    codeKeys code (transitionEvents P c before after) =
      codeEdges (P.keymap c) code before after := by
  simp only [codeKeys]
  rw [filterMap_transition P code c (codeKey code) id (codeKeys_entry hkey c), List.map_id]

theorem codeKeys_append (code : ℤ) (es fs : List Event) :
    codeKeys code (es ++ fs) = codeKeys code es ++ codeKeys code fs :=
  List.filterMap_append

theorem codeKeys_report (P : Params) {code : ℤ} (hkey : code ≤ keyMax) (c : ControllerId)
    (before after : Word) :
    codeKeys code (.report c before after :: transitionEvents P c before after) =
      codeEdges (P.keymap c) code before after :=
  codeKeys_transition P hkey c before after

/-- A key is down only while a button mapped to it is held. -/
theorem ReportTrace.down_held {P : Params} {w w' : ControllerId → Word} {es : List Event}
    (h : ReportTrace P w es w') (hscan : ∀ c, Scanned (P.keymap c)) {code : ℤ}
    (hkey : code ≤ keyMax) (a : Bool) (hbefore : a = true → CodeHeld P code w)
    (hdown : level a (codeKeys code es) = true) : CodeHeld P code w' := by
  induction h generalizing a with
  | nil w => exact hbefore hdown
  | move w dx dy => exact hbefore hdown
  | report w c after =>
    rw [codeKeys_report P hkey] at hdown
    by_cases hother : ∃ c', c' ≠ c ∧ HeldBy (P.keymap c') code (w c')
    · -- the other controller still holds its button
      obtain ⟨c', hc', hheld⟩ := hother
      exact ⟨c', by rwa [Function.update_of_ne hc']⟩
    · -- the level is that of this controller's buttons alone
      have hown : a = true → HeldScan (P.keymap c) code (w c) := by
        intro ha
        obtain ⟨c', hheld⟩ := hbefore ha
        by_cases hc' : c' = c
        · subst hc'
          exact hheld.scan (hscan c')
        · exact absurd ⟨c', hc', hheld⟩ hother
      refine ⟨c, ?_⟩
      rw [Function.update_self]
      exact (level_codeEdges a hown hdown).held
  | append _ _ ih1 ih2 =>
    rw [codeKeys_append, level_append] at hdown
    exact ih2 (level a _) (fun hmid => ih1 a hbefore hmid) hdown

/-- Without a signal for the key no button mapped to it changes. -/
theorem ReportTrace.silent_held {P : Params} {w w' : ControllerId → Word} {es : List Event}
    (h : ReportTrace P w es w') (hscan : ∀ c, Scanned (P.keymap c)) {code : ℤ}
    (hkey : code ≤ keyMax) (hsilent : codeKeys code es = []) (hheld : CodeHeld P code w') :
    CodeHeld P code w := by
  induction h with
  | nil w => exact hheld
  | move w dx dy => exact hheld
  | report w c after =>
    rw [codeKeys_report P hkey] at hsilent
    obtain ⟨c', e, he, hcode, hset⟩ := hheld
    refine ⟨c', e, he, hcode, ?_⟩
    by_cases hc' : c' = c
    · -- a button that was not held before has an edge
      subst hc'
      rw [Function.update_self] at hset
      by_contra hoff
      have hchange : holds (w c') e.pscode ≠ holds after e.pscode :=
        fun hsame => hoff (hsame.trans hset)
      have hedge : holds after e.pscode ∈ codeEdges (P.keymap c') code (w c') after :=
        mem_codeEdges.mpr ⟨e, he, hcode, hscan c' e he, hchange, rfl⟩
      rw [hsilent] at hedge
      exact absurd hedge List.not_mem_nil
    · rwa [Function.update_of_ne hc'] at hset
  | append _ _ ih1 ih2 =>
    rw [codeKeys_append, List.append_eq_nil_iff] at hsilent
    exact ih1 hsilent.1 (ih2 hsilent.2 hheld)

/-- At most one entry of the two key maps has the code. -/
def UniqueCode (P : Params) (code : ℤ) : Prop :=
  ∀ (c c' : ControllerId) (i i' : ℕ) (e e' : KeyMapEntry), (P.keymap c)[i]? = some e →
    (P.keymap c')[i']? = some e' → e.lincode = code → e'.lincode = code → (c, i) = (c', i')

theorem ReportTrace.codeKeys_unique {P : Params} {w w' : ControllerId → Word} {es : List Event}
    (h : ReportTrace P w es w') {code : ℤ} (huniq : UniqueCode P code) {c : ControllerId}
    {i : ℕ} {e : KeyMapEntry} (he : (P.keymap c)[i]? = some e) (hcode : e.lincode = code) :
    codeKeys code es = entryKeys c i es := by
  apply List.filterMap_congr
  intro ev hev
  cases ev with
  | report _ _ _ => rfl
  | signal cause sig =>
    cases sig with
    | key lincode pressed =>
      obtain ⟨c', i', e', rfl, he', hlin⟩ := h.key_cause hev
      -- the two observers see the same signals, by code and by entry
      by_cases hl : lincode = code
      · have hcause := huniq c' c i' i e' e he' he (hlin.trans hl) hcode
        simp only [codeKey, hl, ↓reduceIte, entryKey, hcause]
      · have hcause : (c', i') ≠ (c, i) := by
          intro heq
          obtain ⟨rfl, rfl⟩ := Prod.mk.inj heq
          rw [he] at he'
          obtain rfl := Option.some.inj he'
          exact hl (hlin.symm.trans hcode)
        simp only [codeKey, hl, ↓reduceIte, entryKey, hcause]
    | _ => cases cause <;> rfl

theorem ReportTrace.unique_down {P : Params} {w w' : ControllerId → Word} {es : List Event}
    (h : ReportTrace P w es w') (hscan : ∀ c, Scanned (P.keymap c)) {code : ℤ}
    (hkey : code ≤ keyMax) (huniq : UniqueCode P code) (hw : ∀ c, w c = 0#32)
    (hheld : CodeHeld P code w') : keyDown code es = true := by
  obtain ⟨c, e, he, hcode, hset⟩ := hheld
  obtain ⟨i, hi⟩ := List.mem_iff_getElem?.mp he
  have hedges := h.entry_edges c i e hi (hscan c e he) (hcode ▸ hkey)
  rw [hw, holds_zero] at hedges
  simp only [keyDown]
  rw [h.codeKeys_unique huniq hi hcode, hedges.level, hset]

theorem ConfigAccepts.scanned {B : PSMoveButtons} {P : Params}
    (h : ConfigAccepts B P.keymap1 P.keymap2) (c : ControllerId) : Scanned (P.keymap c) := by
  cases c
  · exact fun e he => (h.valid.1 e he).1
  · exact fun e he => (h.valid.2 e he).1

/-- A run in which no call ends its signals for the key with a release while a button of the
key is still held. -/
def NoSharedRelease (P : Params) (code : ℤ) (calls : List Call) : Prop :=
  ∀ pre call post, calls = pre ++ call :: post →
    (codeKeys code (step P (runCalls P .init pre).1 call).2).getLast? = some false →
    ¬CodeHeld P code (step P (runCalls P .init pre).1 call).1.buttons

theorem runCalls_concat (P : Params) (s : HandlerState) (pre : List Call) (call : Call) :
    runCalls P s (pre ++ [call]) = ((step P (runCalls P s pre).1 call).1,
      (runCalls P s pre).2 ++ (step P (runCalls P s pre).1 call).2) := by
  simp only [runCalls]
  rw [run_append]
  simp only [run_cons_fst, run_cons_snd, run_nil, List.append_nil]

theorem keyDown_concat (P : Params) (code : ℤ) (pre : List Call) (call : Call) :
    keyDown code (runCalls P .init (pre ++ [call])).2 =
      level (keyDown code (runCalls P .init pre).2)
        (codeKeys code (step P (runCalls P .init pre).1 call).2) := by
  calc
    keyDown code (runCalls P .init (pre ++ [call])).2 =
        level false (codeKeys code ((runCalls P .init pre).2 ++
          (step P (runCalls P .init pre).1 call).2)) := by rw [runCalls_concat, keyDown]
    _ = level (level false (codeKeys code (runCalls P .init pre).2))
        (codeKeys code (step P (runCalls P .init pre).1 call).2) := by
      rw [codeKeys_append, level_append]

theorem NoSharedRelease.init {P : Params} {code : ℤ} {pre post : List Call}
    (h : NoSharedRelease P code (pre ++ post)) : NoSharedRelease P code pre := by
  intro pre' call' post' heq
  exact h pre' call' (post' ++ post) (by rw [heq, List.append_assoc, List.cons_append])

theorem held_down_of_noSharedRelease (P : Params) (hscan : ∀ c, Scanned (P.keymap c)) {code : ℤ}
    (hkey : code ≤ keyMax) (calls : List Call) (hcalls : ∀ call ∈ calls, call.isReset = false)
    (hrun : NoSharedRelease P code calls)
    (hheld : CodeHeld P code (runCalls P .init calls).1.buttons) :
    keyDown code (runCalls P .init calls).2 = true := by
  induction calls using List.reverseRecOn with
  | nil =>
    obtain ⟨c, e, _, _, hset⟩ := hheld
    exact absurd hset (by simp [runCalls, HandlerState.init])
  | append_singleton pre call ih =>
    have hcall := hcalls call (List.mem_append_right pre List.mem_cons_self)
    have hpre : ∀ x ∈ pre, x.isReset = false := fun x hx => hcalls x (List.mem_append_left _ hx)
    rw [keyDown_concat]
    rw [runCalls_concat] at hheld
    cases hlast : (codeKeys code (step P (runCalls P .init pre).1 call).2).getLast? with
    | none =>
      -- the call sends nothing for the key: it was held and down before
      have hsilent := List.getLast?_eq_none_iff.mp hlast
      have hbefore := (step_trace P call hcall _).silent_held hscan hkey hsilent hheld
      rw [hsilent, level_nil]
      exact ih hpre hrun.init hbefore
    | some b =>
      cases b with
      | true =>
        simp only [level]
        rw [hlast]
        rfl
      | false =>
        have hnone := hrun pre call [] rfl hlast
        exact absurd hheld hnone

/-- Where the level follows the buttons after every call, no call ends with such a release. -/
theorem noSharedRelease_of_iff (P : Params) {code : ℤ} (calls : List Call)
    (h : ∀ pre post, calls = pre ++ post → (keyDown code (runCalls P .init pre).2 = true ↔
      CodeHeld P code (runCalls P .init pre).1.buttons)) :
    NoSharedRelease P code calls := by
  intro pre call post heq hlast hheld
  have hafter := h (pre ++ [call]) post (by rw [heq, List.append_assoc, List.singleton_append])
  rw [keyDown_concat, runCalls_concat] at hafter
  have hup : level (keyDown code (runCalls P .init pre).2)
      (codeKeys code (step P (runCalls P .init pre).1 call).2) = false := by
    simp only [level]
    rw [hlast]
    rfl
  exact absurd (hup.symm.trans (hafter.mpr hheld)) (by decide)

/-- A Linux key is down only while a button mapped to it is held. The converse holds of a key
that one entry maps; of any key it holds after every call of a run exactly when no call of the
run ends its signals for the key with a release while another of its buttons is held. -/
theorem key_down_iff_held (B : PSMoveButtons) (P : Params)
    (haccept : ConfigAccepts B P.keymap1 P.keymap2) (calls : List Call)
    (hcalls : ∀ call ∈ calls, call.isReset = false) (code : ℤ) (hkey : code ≤ keyMax) :
    (keyDown code (runCalls P .init calls).2 = true →
      CodeHeld P code (runCalls P .init calls).1.buttons) ∧
    (UniqueCode P code → (keyDown code (runCalls P .init calls).2 = true ↔
      CodeHeld P code (runCalls P .init calls).1.buttons)) ∧
    ((∀ pre post, calls = pre ++ post → (keyDown code (runCalls P .init pre).2 = true ↔
      CodeHeld P code (runCalls P .init pre).1.buttons)) ↔ NoSharedRelease P code calls) := by
  have hsound (pre : List Call) (hpre : ∀ call ∈ pre, call.isReset = false)
      (hdown : keyDown code (runCalls P .init pre).2 = true) :
      CodeHeld P code (runCalls P .init pre).1.buttons :=
    (runCalls_trace P pre hpre .init).down_held haccept.scanned hkey false (by simp) hdown
  have htrace := runCalls_trace P calls hcalls .init
  refine ⟨hsound calls hcalls, fun huniq => ?_, noSharedRelease_of_iff P calls, ?_⟩
  · have hcomplete := htrace.unique_down haccept.scanned hkey huniq (fun _ => rfl)
    exact ⟨hsound calls hcalls, hcomplete⟩
  · intro hrun pre post hsplit
    subst hsplit
    have hpre : ∀ call ∈ pre, call.isReset = false :=
      fun call hc => hcalls call (List.mem_append_left post hc)
    exact ⟨hsound pre hpre,
      held_down_of_noSharedRelease P haccept.scanned hkey pre hpre hrun.init⟩

/-- Two buttons of the first controller mapped to one key. -/
def sharedOpts (name : String) : Option String :=
  if name = "PSBTN_CIRCLE" ∨ name = "PSBTN_CROSS" then some "KEY_X" else none

def sharedParams : Params where
  keymap1 := [⟨0x20#32, 45⟩, ⟨0x40#32, 45⟩]
  keymap2 := []
  cx := 1
  cy := 1
  moveThreshold := 0
  gestureThreshold := 100

theorem sharedParams_accepted :
    ConfigAccepts psmoveButtons sharedParams.keymap1 sharedParams.keymap2 :=
  ⟨sharedOpts, by decide +kernel⟩

/-- One button of each controller, mapped to a key of its own. -/
def crossOpts (name : String) : Option String :=
  if name = "PSBTN_CROSS" then some "KEY_X"
  else if name = "PSBTN_1_CROSS" then some "KEY_C"
  else none

def crossParams : Params :=
  { sharedParams with keymap1 := [⟨0x40#32, 45⟩], keymap2 := [⟨0x40#32, 46⟩] }

theorem crossParams_accepted :
    ConfigAccepts psmoveButtons crossParams.keymap1 crossParams.keymap2 :=
  ⟨crossOpts, by decide +kernel⟩

theorem crossParams_unique (code : ℤ) : UniqueCode crossParams code := by
  intro c c' i i' e e' he he' hcode hcode'
  have hentry (d : ControllerId) {j : ℕ} {f : KeyMapEntry}
      (hf : (crossParams.keymap d)[j]? = some f) :
      j = 0 ∧ f.lincode = (if d = .first then 45 else 46) := by
    obtain ⟨hlt, heq⟩ := List.getElem?_eq_some_iff.mp hf
    cases d
    all_goals
      obtain rfl : j = 0 := Nat.lt_one_iff.mp hlt
      exact ⟨rfl, by rw [← heq]; rfl⟩
  obtain ⟨rfl, hc⟩ := hentry c he
  obtain ⟨rfl, hc'⟩ := hentry c' he'
  rw [← hcode', hc', hc] at hcode
  cases c <;> cases c' <;> first | rfl | exact absurd hcode (by decide)

/-- The button of the first controller is pressed, released and pressed again. -/
def crossCalls : List Call :=
  [.onButtons (fun _ => ⟨1, 1⟩) 0x40#32 .first, .onButtons (fun _ => ⟨1, 2⟩) 0#32 .first,
    .onButtons (fun _ => ⟨1, 3⟩) 0x40#32 .first]

theorem key_down_iff_held_cross :
    keyDown 45 (runCalls crossParams .init crossCalls).2 = true ∧
      CodeHeld crossParams 45 (runCalls crossParams .init crossCalls).1.buttons ∧
      (keyDown 45 (runCalls crossParams .init crossCalls).2 = true ↔
        CodeHeld crossParams 45 (runCalls crossParams .init crossCalls).1.buttons) ∧
      ((∀ pre post, crossCalls = pre ++ post →
        (keyDown 45 (runCalls crossParams .init pre).2 = true ↔
          CodeHeld crossParams 45 (runCalls crossParams .init pre).1.buttons)) ↔
        NoSharedRelease crossParams 45 crossCalls) := by
  have hdown : keyDown 45 (runCalls crossParams .init crossCalls).2 = true := by decide +kernel
  obtain ⟨hheld, hunique, hshared⟩ := key_down_iff_held psmoveButtons crossParams
    crossParams_accepted crossCalls (by decide) 45 (by decide)
  exact ⟨hdown, hheld hdown, hunique (crossParams_unique 45), hshared⟩

/-- Both buttons pressed and one released: the key is up although the other one is held. -/
theorem key_up_while_held :
    ConfigAccepts psmoveButtons sharedParams.keymap1 sharedParams.keymap2 ∧
      ¬(keyDown 45 (runCalls sharedParams .init
          [.onButtons (fun _ => ⟨1, 1⟩) 0x60#32 .first,
           .onButtons (fun _ => ⟨1, 2⟩) 0x40#32 .first]).2 = true ↔
        CodeHeld sharedParams 45 (runCalls sharedParams .init
          [.onButtons (fun _ => ⟨1, 1⟩) 0x60#32 .first,
           .onButtons (fun _ => ⟨1, 2⟩) 0x40#32 .first]).1.buttons) := by
  refine ⟨sharedParams_accepted, fun h => ?_⟩
  have hdown := h.mpr ⟨.first, ⟨0x40#32, 45⟩, by decide +kernel, rfl, by decide +kernel⟩
  exact absurd hdown (by decide +kernel)

/-! ### Reset -/

/-- `reset` emits nothing, so it closes the keys exactly when none is down. Where the level of
every ordinary key follows its buttons, this means that no button of such a key is stored. -/
theorem reset_closes_keys_iff (P : Params) (calls : List Call)
    (hcalls : ∀ call ∈ calls, call.isReset = false) :
    ((∀ code ≤ keyMax, keyDown code (runCalls P .init calls).2 = true →
        .key code false ∈ signals (step P (runCalls P .init calls).1 .reset).2) ↔
      ∀ code ≤ keyMax, keyDown code (runCalls P .init calls).2 = false) ∧
    ((∀ c, Scanned (P.keymap c)) →
      (∀ code ≤ keyMax, UniqueCode P code ∨ NoSharedRelease P code calls) →
      ((∀ code ≤ keyMax, keyDown code (runCalls P .init calls).2 = true →
          .key code false ∈ signals (step P (runCalls P .init calls).1 .reset).2) ↔
        ∀ c, ∀ e ∈ P.keymap c, e.lincode ≤ keyMax →
          holds ((runCalls P .init calls).1.buttons c) e.pscode = false)) := by
  have hsilent (code : ℤ) :
      ¬Signal.key code false ∈ signals (step P (runCalls P .init calls).1 .reset).2 :=
    List.not_mem_nil
  have hiff : (∀ code ≤ keyMax, keyDown code (runCalls P .init calls).2 = true →
        .key code false ∈ signals (step P (runCalls P .init calls).1 .reset).2) ↔
      ∀ code ≤ keyMax, keyDown code (runCalls P .init calls).2 = false := by
    constructor
    · intro h code hkey
      by_contra hdown
      exact hsilent code (h code hkey (eq_true_of_ne_false hdown))
    · intro h code hkey hdown
      rw [h code hkey] at hdown
      exact absurd hdown (by decide)
  refine ⟨hiff, fun hscan hlevel => hiff.trans ?_⟩
  have htrace := runCalls_trace P calls hcalls .init
  constructor
  · intro h c e he hkey
    by_contra hset
    have hheld : CodeHeld P e.lincode (runCalls P .init calls).1.buttons :=
      ⟨c, e, he, rfl, eq_true_of_ne_false hset⟩
    have hdown : keyDown e.lincode (runCalls P .init calls).2 = true := by
      rcases hlevel e.lincode hkey with huniq | hrun
      · exact htrace.unique_down hscan hkey huniq (fun _ => rfl) hheld
      · exact held_down_of_noSharedRelease P hscan hkey calls hcalls hrun hheld
    rw [h e.lincode hkey] at hdown
    exact absurd hdown (by decide)
  · intro h code hkey
    by_contra hdown
    -- a key that is down has a stored button
    obtain ⟨c, e, he, hcode, hset⟩ :=
      htrace.down_held hscan hkey false (by simp) (eq_true_of_ne_false hdown)
    rw [h c e he (hcode ▸ hkey)] at hset
    exact absurd hset (by decide)

/-- Nothing has to be closed after the release. After the second press the key stays down. -/
theorem reset_closes_keys_released :
    (∀ code ≤ keyMax, keyDown code (runCalls crossParams .init (crossCalls.take 2)).2 = true →
      .key code false ∈
        signals (step crossParams (runCalls crossParams .init (crossCalls.take 2)).1 .reset).2) ∧
    keyDown 45 (runCalls crossParams .init crossCalls).2 = true ∧
    ¬∀ code ≤ keyMax, keyDown code (runCalls crossParams .init crossCalls).2 = true →
      .key code false ∈
        signals (step crossParams (runCalls crossParams .init crossCalls).1 .reset).2 := by
  have hscan : ∀ c, Scanned (crossParams.keymap c) := crossParams_accepted.scanned
  have hunique : ∀ code ≤ keyMax, UniqueCode crossParams code ∨
      NoSharedRelease crossParams code crossCalls := fun code _ => Or.inl (crossParams_unique code)
  have hunique' : ∀ code ≤ keyMax, UniqueCode crossParams code ∨
      NoSharedRelease crossParams code (crossCalls.take 2) :=
    fun code _ => Or.inl (crossParams_unique code)
  refine ⟨?_, by decide +kernel, ?_⟩
  · apply ((reset_closes_keys_iff crossParams (crossCalls.take 2) (by decide)).2 hscan hunique').mpr
    intro c
    cases c <;> decide +kernel
  · intro hclosed
    have hnone := ((reset_closes_keys_iff crossParams crossCalls (by decide)).2 hscan hunique).mp
      hclosed .first ⟨0x40#32, 45⟩ List.mem_cons_self (by decide)
    exact absurd hnone (by decide +kernel)

/-- A key that is down when `reset` is called stays down. -/
theorem reset_keeps_key_down :
    ¬∀ code ≤ keyMax,
      keyDown code (runCalls sharedParams .init
          [.onButtons (fun _ => ⟨1, 1⟩) 0x40#32 .first]).2 = true →
        .key code false ∈ signals (step sharedParams (runCalls sharedParams .init
          [.onButtons (fun _ => ⟨1, 1⟩) 0x40#32 .first]).1 .reset).2 := by
  intro h
  have hrel := h 45 (by decide) (by decide +kernel)
  exact absurd hrel (by decide +kernel)

end PSMoveInput
