import PSMoveInput.ListenerThreads
import PSMoveInput.Occurrence

/-! The disconnect key from the thread that reports it to the calls of `Disconnect`: the address in
the slot, the command, and the choice of objects by `psmoveinput_bluez5_disconnect.py`. -/
namespace PSMoveInput

open Transducer

/-! ### Addresses -/

/-- A Bluetooth address. -/
structure BtAddr where
  bytes : List (Fin 256)
  length_eq : bytes.length = 6

def lowerDigits : List Char := "0123456789abcdef".toList

def upperDigits : List Char := "0123456789ABCDEF".toList

/-- The two digits of a byte. -/
def byteText (digits : List Char) (b : Fin 256) : List Char :=
  [digits.getD (b.val / 16) '0', digits.getD (b.val % 16) '0']

def bytesText (sep : Char) (digits : List Char) : List (Fin 256) → List Char
  | [] => []
  | [b] => byteText digits b
  | b :: b' :: bs => byteText digits b ++ sep :: bytesText sep digits (b' :: bs)

/-- What `psmove_get_serial` returns for a Bluetooth controller. -/
def BtAddr.serial (a : BtAddr) : List Char := bytesText ':' lowerDigits a.bytes

/-- The address in the path of a BlueZ object. -/
def BtAddr.node (a : BtAddr) : List Char := bytesText '_' upperDigits a.bytes

/-- The path of an object that BlueZ manages: of an adapter or above it, of a device, or of a part
of a device. -/
structure ObjectPath where
  adapter : List Char
  device : Option BtAddr
  part : List Char
  adapter_plain : '_' ∉ adapter
  part_plain : '_' ∉ part
  part_slash : part = [] ∨ part.head? = some '/'

def ObjectPath.text (path : ObjectPath) : List Char :=
  path.adapter ++ (path.device.elim [] fun a => "/dev_".toList ++ a.node) ++ path.part

/-! ### The script -/

/-- `address.replace(':', '_').upper()`. -/
def addressPattern (address : List Char) : List Char :=
  (address.map fun c => if c = ':' then '_' else c).map Char.toUpper

/-- The objects whose `Disconnect` is called, one after another. A call that raises an exception
ends the script. -/
def disconnectObjects {Path : Type} (text : Path → List Char) (answers : Path → Bool)
    (pattern : List Char) : List Path → List Path
  | [] => []
  | obj :: objs =>
    if pattern <:+: text obj then
      obj :: if answers obj = true then disconnectObjects text answers pattern objs else []
    else disconnectObjects text answers pattern objs

/-- `psmoveinput_bluez5_disconnect.py`, for the objects of `GetManagedObjects`. -/
def disconnectScript {Path : Type} (text : Path → List Char) (answers : Path → Bool)
    (argv : List (List Char)) (objects : List Path) : List Path :=
  match argv with
  | [_, address] => disconnectObjects text answers (addressPattern address) objects
  | _ => []

/-- What `system` is called with. -/
def disconnectCommand (btaddr : List Char) : List Char :=
  "psmoveinput_disconnect.py ".toList ++ btaddr

/-- The words of a command that has no quotes and no expansions. -/
def shellWords (cmd : List Char) : List (List Char) := cmd.splitOn ' '

/-! ### The listener -/

inductive ListenerAction where
  | handle (action : HandleAction)
  /-- `system` is called in the thread. -/
  | command (thread : ℕ) (cmd : List Char)
  deriving DecidableEq, Repr

/-- The listener with the members `btaddr_` of its slots. -/
structure AddressState where
  run : RunState
  btaddr : ControllerId → List Char

def AddressState.init : AddressState where
  run := .init
  btaddr := fun _ => []

/-- The slot and the handle of the thread that the next statement of the main loop starts. -/
def RunState.starting (s : RunState) : Option (ControllerId × ℕ) :=
  match s.pc with
  | .handleNewDevice _ move => (handleNewDevice s.running).map fun c => (c, move.handle)
  | _ => none

/-- What happens to the listener. A disconnect signal names a controller: that of the raising
thread, or the other one if the thread has taken over a deferred release of the gesture keys. -/
inductive AddressEvent where
  | main (answer : Option ConnectionType)
  | worker (thread : ℕ) (answer : Bool)
  | disconnectKey (thread : ℕ) (controller : ControllerId)
  | stop

/-- The same without the name. -/
def AddressEvent.event : AddressEvent → RunEvent
  | .main answer => .main answer
  | .worker t answer => .worker t answer
  | .disconnectKey t _ => .disconnectKey t
  | .stop => .stop

/-- `start` stores the address, `onDisconnectKey` reads the one of the controller that the signal
names. -/
def AddressState.step (serial : ℕ → List Char) (s : AddressState) (ev : AddressEvent) :
    AddressState × List ListenerAction :=
  let r := s.run.step ev.event
  match ev with
  | .main _ =>
    ({ run := r.1
       btaddr := match s.run.starting with
        | some (c, handle) => Function.update s.btaddr c (serial handle)
        | none => s.btaddr }, r.2.map .handle)
  | .disconnectKey t controller =>
    ({ s with run := r.1 }, r.2.map .handle ++
      match s.run.workers t with
      -- a thread raises signals while it polls
      | some w =>
        if w.pc = .poll then [.command t (disconnectCommand (s.btaddr controller))] else []
      | none => [])
  | _ => ({ s with run := r.1 }, r.2.map .handle)

/-! ### Texts of addresses -/

section

variable {sep : Char} {digits : List Char}

theorem bytesText_length (bs : List (Fin 256)) :
    (bytesText sep digits bs).length = 3 * bs.length - 1 := by
  induction bs with
  | nil => rfl
  | cons b bs ih =>
    cases bs with
    | nil => rfl
    | cons b' bs =>
      rw [bytesText, List.length_append, List.length_cons, ih]
      simp only [byteText, List.length_cons, List.length_nil]
      omega

theorem mem_bytesText {bs : List (Fin 256)} {c : Char} (h : c ∈ bytesText sep digits bs) :
    c = sep ∨ ∃ b, c ∈ byteText digits b := by
  induction bs with
  | nil => exact absurd h List.not_mem_nil
  | cons b bs ih =>
    cases bs with
    | nil => exact Or.inr ⟨b, h⟩
    | cons b' bs =>
      rw [bytesText] at h
      rcases List.mem_append.mp h with h | h
      · exact Or.inr ⟨b, h⟩
      · rcases List.mem_cons.mp h with h | h
        · exact Or.inl h
        · exact ih h

/-- Letter by letter. -/
theorem map_bytesText {sep' : Char} {digits' : List Char} (f : Char → Char) (hsep : f sep = sep')
    (hbyte : ∀ b, (byteText digits b).map f = byteText digits' b) (bs : List (Fin 256)) :
    (bytesText sep digits bs).map f = bytesText sep' digits' bs := by
  induction bs with
  | nil => rfl
  | cons b bs ih =>
    cases bs with
    | nil => exact hbyte b
    | cons b' bs => rw [bytesText, bytesText, List.map_append, List.map_cons, ih, hbyte, hsep]

theorem bytesText_injective (hbyte : Function.Injective (byteText digits)) {bs cs : List (Fin 256)}
    (hlength : bs.length = cs.length) (h : bytesText sep digits bs = bytesText sep digits cs) :
    bs = cs := by
  induction bs generalizing cs with
  | nil => exact (List.eq_nil_of_length_eq_zero hlength.symm).symm
  | cons b bs ih =>
    obtain ⟨c, cs, rfl⟩ := List.exists_cons_of_length_eq_add_one hlength.symm
    have htails := Nat.succ.inj hlength
    cases bs with
    | nil =>
      obtain rfl := List.eq_nil_of_length_eq_zero htails.symm
      rw [hbyte h]
    | cons b' bs =>
      obtain ⟨c', cs, rfl⟩ := List.exists_cons_of_length_eq_add_one htails.symm
      rw [bytesText, bytesText] at h
      obtain ⟨hhead, htail⟩ := List.append_inj h rfl
      rw [hbyte hhead, ih htails (List.cons.inj htail).2]

end

theorem mem_byteText {digits : List Char} {b : Fin 256} {c : Char} (h : c ∈ byteText digits b) :
    ∃ n < 16, c = digits.getD n '0' := by
  have hlow : b.val % 16 < 16 := Nat.mod_lt _ (by decide)
  have hhigh : b.val / 16 < 16 := by omega
  simp only [byteText, List.mem_cons, List.not_mem_nil, or_false] at h
  rcases h with rfl | rfl
  · exact ⟨_, hhigh, rfl⟩
  · exact ⟨_, hlow, rfl⟩

theorem lowerDigits_ne : ∀ n < 16, lowerDigits.getD n '0' ≠ ' ' := by decide

theorem upperDigits_ne : ∀ n < 16, upperDigits.getD n '0' ≠ '/' ∧ upperDigits.getD n '0' ≠ 'v' ∧
    upperDigits.getD n '0' ≠ '_' := by decide

theorem digit_pattern : ∀ n < 16, addressPattern [lowerDigits.getD n '0'] =
    [upperDigits.getD n '0'] := by decide

theorem upperDigits_injective : ∀ n < 16, ∀ m < 16,
    upperDigits.getD n '0' = upperDigits.getD m '0' → n = m := by decide

theorem byteText_injective : Function.Injective (byteText upperDigits) := by
  intro b c h
  obtain ⟨hhigh, hlow⟩ := List.cons.inj h
  have hdiv := upperDigits_injective _ (by omega) _ (by omega) hhigh
  have hmod := upperDigits_injective _ (by omega) _ (by omega) (List.cons.inj hlow).1
  apply Fin.ext
  omega

/-- The script finds the address as BlueZ writes it. -/
theorem serial_pattern (a : BtAddr) : addressPattern a.serial = a.node := by
  have hbyte (b : Fin 256) : (byteText lowerDigits b).map
      (fun c => (if c = ':' then '_' else c).toUpper) = byteText upperDigits b := by
    have hhigh := digit_pattern (b.val / 16) (by omega)
    have hlow := digit_pattern (b.val % 16) (by omega)
    simp only [addressPattern, List.map_cons, List.map_nil, List.cons.injEq, and_true] at hhigh hlow
    simp only [byteText, List.map_cons, List.map_nil, hhigh, hlow]
  have hsep : (if ':' = ':' then '_' else ':').toUpper = '_' := by decide
  have hmap := map_bytesText (fun c => (if c = ':' then '_' else c).toUpper) hsep hbyte a.bytes
  rw [addressPattern, List.map_map]
  exact hmap

theorem node_injective {a b : BtAddr} (h : a.node = b.node) : a = b := by
  obtain ⟨as, ha⟩ := a
  obtain ⟨bs, hb⟩ := b
  obtain rfl : as = bs := bytesText_injective byteText_injective (ha.trans hb.symm) h
  rfl

theorem node_length (a : BtAddr) : a.node.length = 17 := by
  rw [BtAddr.node, bytesText_length, a.length_eq]

theorem node_plain (a : BtAddr) : '/' ∉ a.node ∧ 'v' ∉ a.node := by
  have hmem {c : Char} (hsep : c ≠ '_') (hdigit : ∀ n < 16, upperDigits.getD n '0' ≠ c) :
      c ∉ a.node := by
    intro hc
    rcases mem_bytesText hc with hc | ⟨b, hc⟩
    · exact hsep hc
    · obtain ⟨n, hn, rfl⟩ := mem_byteText hc
      exact hdigit n hn rfl
  exact ⟨hmem (by decide) fun n hn => (upperDigits_ne n hn).1,
    hmem (by decide) fun n hn => (upperDigits_ne n hn).2.1⟩

/-- The text begins with a digit and has a separator. -/
theorem node_begins (a : BtAddr) : a.node.head? ≠ some '_' ∧ '_' ∈ a.node := by
  obtain ⟨bs, hlength⟩ := a
  obtain ⟨b, bs, rfl⟩ := List.exists_cons_of_length_eq_add_one hlength
  obtain ⟨b', bs, rfl⟩ := List.exists_cons_of_length_eq_add_one (Nat.succ.inj hlength)
  rw [BtAddr.node, bytesText]
  constructor
  · have hdigit := (upperDigits_ne (b.val / 16) (by omega)).2.2
    intro hhead
    exact hdigit (Option.some.inj hhead)
  · exact List.mem_append_right _ List.mem_cons_self

/-! ### The choice of objects -/

/-- The script chooses the objects of the device, whatever else their paths say. -/
theorem node_occurs_iff (a : BtAddr) (path : ObjectPath) :
    a.node <:+: path.text ↔ path.device = some a := by
  have hsep := (node_begins a).2
  constructor
  · intro h
    rw [ObjectPath.text] at h
    cases hdevice : path.device with
    | none =>
      -- without a device there is no `_`
      rw [hdevice, Option.elim_none, List.append_nil] at h
      rcases List.mem_append.mp (h.subset hsep) with hmem | hmem
      · exact absurd hmem path.adapter_plain
      · exact absurd hmem path.part_plain
    | some b =>
      have hsplit : path.adapter ++ ("/dev_".toList ++ b.node) ++ path.part =
          (path.adapter ++ "/de".toList) ++ 'v' :: ('_' :: b.node ++ path.part) := by
        simp
      rw [hdevice, Option.elim_some, hsplit] at h
      rcases Occurrence.infix_side (node_plain a).2 h with h | h
      · have hmem := h.subset hsep
        rcases List.mem_append.mp hmem with hmem | hmem
        · exact absurd hmem path.adapter_plain
        · exact absurd hmem (by decide)
      · have hinside : a.node <:+: '_' :: b.node := by
          rcases path.part_slash with hnil | hslash
          · rwa [hnil, List.append_nil] at h
          · obtain ⟨part, hpart⟩ := List.head?_eq_some_iff.mp hslash
            rw [hpart] at h
            rcases Occurrence.infix_side (node_plain a).1 h with h | h
            · exact h
            · have hmem := List.mem_cons_of_mem '/' (h.subset hsep)
              rw [← hpart] at hmem
              exact absurd hmem path.part_plain
        have hlength : a.node.length = b.node.length := (node_length a).trans (node_length b).symm
        have hnode := Occurrence.infix_cons_of_length hlength (node_begins a).1 hinside
        rw [node_injective hnode]
  · intro hdevice
    rw [ObjectPath.text, hdevice, Option.elim_some]
    have hinside : a.node <:+: "/dev_".toList ++ a.node := List.infix_append_right
    exact (hinside.trans List.infix_append_right).trans List.infix_append_left

/-- The script tries matching objects only, in their order, and all of them if no call raises. -/
theorem disconnectObjects_spec {Path : Type} (text : Path → List Char) (answers : Path → Bool)
    (pattern : List Char) (objects : List Path) :
    let matching := objects.filter fun obj => pattern <:+: text obj
    disconnectObjects text answers pattern objects <+: matching ∧
      ((∀ obj ∈ matching, answers obj = true) →
        disconnectObjects text answers pattern objects = matching) := by
  intro matching
  induction objects with
  | nil => exact ⟨List.nil_prefix, fun _ => rfl⟩
  | cons obj objects ih =>
    simp only [disconnectObjects, matching]
    by_cases hmatch : pattern <:+: text obj
    · have hcons : (obj :: objects).filter (fun obj => pattern <:+: text obj) =
          obj :: objects.filter fun obj => pattern <:+: text obj :=
        List.filter_cons_of_pos (decide_eq_true hmatch)
      rw [if_pos hmatch, hcons]
      constructor
      · apply List.cons_prefix_cons.mpr ⟨rfl, _⟩
        split_ifs
        · exact ih.1
        · exact List.nil_prefix
      · intro hall
        have hrest := ih.2 fun obj' hobj' => hall obj' (List.mem_cons_of_mem obj hobj')
        rw [if_pos (hall obj List.mem_cons_self), hrest]
    · have hcons : (obj :: objects).filter (fun obj => pattern <:+: text obj) =
          objects.filter fun obj => pattern <:+: text obj :=
        List.filter_cons_of_neg (by simpa using hmatch)
      rw [if_neg hmatch, hcons]
      exact ih

theorem serial_words (a : BtAddr) : shellWords (disconnectCommand a.serial) =
    ["psmoveinput_disconnect.py".toList, a.serial] := by
  have hserial : ∀ c ∈ a.serial, (c == ' ') = false := by
    intro c hc
    rcases mem_bytesText hc with rfl | ⟨b, hc⟩
    · decide
    · obtain ⟨n, hn, rfl⟩ := mem_byteText hc
      exact beq_false_of_ne (lowerDigits_ne n hn)
  have hsplit : disconnectCommand a.serial =
      "psmoveinput_disconnect.py".toList ++ ' ' :: a.serial := rfl
  have hall : ("psmoveinput_disconnect.py".toList.all fun c => !(c == ' ')) = true := by decide
  have hname : ∀ c ∈ "psmoveinput_disconnect.py".toList, (c == ' ') = false := by
    intro c hc
    have hne := List.all_eq_true.mp hall c hc
    rwa [Bool.not_eq_true'] at hne
  rw [shellWords, hsplit, List.splitOn_eq_splitOnP,
    List.splitOnP_append_cons_of_forall_mem hname ' ' rfl, List.splitOnP_eq_singleton hserial]

/-- With the command of an address, the script tries objects of the device that has it. -/
theorem disconnectScript_serial (answers : ObjectPath → Bool) (objects : List ObjectPath)
    (a : BtAddr) :
    let tried := disconnectScript ObjectPath.text answers
      (shellWords (disconnectCommand a.serial)) objects
    let own := objects.filter fun path => a.node <:+: path.text
    tried <+: own ∧ ((∀ path ∈ own, answers path = true) → tried = own) := by
  intro tried own
  have hspec := disconnectObjects_spec ObjectPath.text answers a.node objects
  have htried : tried = disconnectObjects ObjectPath.text answers a.node objects := by
    simp only [tried, serial_words, disconnectScript, serial_pattern]
  rw [htried]
  exact hspec

/-! ### The address of a thread -/

/-- The thread that the main loop starts next. -/
theorem mainStep_starting (s : RunState) (answer : Option ConnectionType) :
    match s.starting with
    | some (c, handle) => ∃ psmoveId move, move.handle = handle ∧ s.running c = false ∧
        s.mainStep answer =
          ({ s.startThread c psmoveId move with pc := .stopCheck }, [.started s.started handle])
    | none => SameThreads s (s.mainStep answer).1 := by
  cases hpc : s.pc with
  | handleNewDevice psmoveId move =>
    have hstarting : s.starting =
        (handleNewDevice s.running).map fun c => (c, move.handle) := by
      rw [RunState.starting, hpc]
    rw [hstarting, RunState.mainStep, hpc]
    dsimp only
    cases hc : handleNewDevice s.running with
    | none => exact ⟨rfl, rfl, rfl⟩
    | some c => exact ⟨psmoveId, move, rfl, handleNewDevice_free hc, rfl⟩
  | _ =>
    have hstarting : s.starting = none := by rw [RunState.starting, hpc]
    rw [hstarting]
    rcases mainStep_moves s answer with ⟨same, _, _, _⟩ | ⟨_, _, same, _, _, _, _⟩ |
      ⟨same, _, _, _⟩ | ⟨_, _, _, device, _, _, _⟩
    · exact same
    · exact same
    · exact same
    · rw [hpc] at device
      cases device

/-- The slot of a thread that has not cleared `thread_` has the address of its controller. -/
structure AddressState.Known (serial : ℕ → List Char) (s : AddressState) : Prop where
  attached : s.run.Attached
  address : ∀ t w, s.run.workers t = some w → w.pc.attached = true →
    s.btaddr w.slot = serial w.handle

section

variable {serial : ℕ → List Char} {s : AddressState}

theorem known_init : AddressState.init.Known serial where
  attached := attached_init
  address _ _ hw := by cases hw

theorem AddressState.Known.keep (h : s.Known serial) {s' : RunState}
    (hsame : SameThreads s.run s') : AddressState.Known serial { s with run := s' } := by
  constructor
  · exact h.attached.keep hsame
  · intro t w hw ha
    apply h.address t w _ ha
    rw [← hsame.workers]
    exact hw

theorem AddressState.Known.moves (h : s.Known serial) {s' : RunState} {t : ℕ} {w : Worker}
    {pc : ControllerPc} (hm : WorkerMoves s.run t w pc s') :
    AddressState.Known serial { s with run := s' } := by
  constructor
  · exact h.attached.moves hm
  · intro t' w' hw' ha
    rcases hm.cases hw' with ⟨rfl, rfl⟩ | ⟨-, hw'⟩
    · exact h.address t' w hm.worker (hm.next.attached ha).1
    · exact h.address t' w' hw' ha

/-- `start` replaces the address in a slot that no attached thread has. -/
theorem AddressState.Known.start (h : s.Known serial) {c : ControllerId}
    (hfree : s.run.running c = false) (psmoveId : ℕ) (move : PSMove) :
    AddressState.Known serial
      ⟨{ s.run.startThread c psmoveId move with pc := .stopCheck },
        Function.update s.btaddr c (serial move.handle)⟩ := by
  constructor
  · exact h.attached.start hfree psmoveId move .stopCheck
  · intro t w hw ha
    rcases startThread_cases psmoveId hw with ⟨rfl, rfl⟩ | ⟨-, hw⟩
    · exact Function.update_self ..
    · have hown := h.attached.thread t w hw ha
      have hne : w.slot ≠ c := by
        rintro rfl
        rw [RunState.running, Slot.running, hown] at hfree
        cases hfree
      dsimp only
      rw [Function.update_of_ne hne]
      exact h.address t w hw ha

theorem step_known (h : s.Known serial) (ev : AddressEvent) :
    (s.step serial ev).1.Known serial := by
  cases ev with
  | main answer =>
    have hstarting := mainStep_starting s.run answer
    simp only [AddressState.step, AddressEvent.event, RunState.step]
    cases hs : s.run.starting with
    | none =>
      rw [hs] at hstarting
      exact h.keep hstarting
    | some start =>
      obtain ⟨c, handle⟩ := start
      rw [hs] at hstarting
      obtain ⟨psmoveId, move, rfl, hfree, hstep⟩ := hstarting
      rw [hstep]
      exact h.start hfree psmoveId move
  | worker t answer =>
    simp only [AddressState.step, AddressEvent.event, RunState.step]
    rcases workerStep_spec s.run t answer with hstep | ⟨w, pc, hm, -⟩
    · rw [hstep]
      exact h.keep ⟨rfl, rfl, rfl⟩
    · exact h.moves hm
  | disconnectKey t controller =>
    simp only [AddressState.step, AddressEvent.event, RunState.step]
    split_ifs
    all_goals exact h.keep ⟨rfl, rfl, rfl⟩
  | stop => exact h.keep ⟨rfl, rfl, rfl⟩

/-- The command for a signal, and the thread that runs it. -/
theorem command_address {t : ℕ} {controller : ControllerId} {cmd : List Char}
    (hcmd : .command t cmd ∈ (s.step serial (.disconnectKey t controller)).2) :
    (∃ w, s.run.workers t = some w ∧ w.pc.attached = true) ∧
      cmd = disconnectCommand (s.btaddr controller) := by
  simp only [AddressState.step] at hcmd
  rcases List.mem_append.mp hcmd with hcmd | hcmd
  · obtain ⟨action, -, heq⟩ := List.mem_map.mp hcmd
    cases heq
  · cases hw : s.run.workers t with
    | none =>
      rw [hw] at hcmd
      exact absurd hcmd List.not_mem_nil
    | some w =>
      rw [hw] at hcmd
      dsimp only at hcmd
      split_ifs at hcmd with hpoll
      · refine ⟨⟨w, rfl, ?_⟩, (ListenerAction.command.inj (List.mem_singleton.mp hcmd)).2⟩
        rw [hpoll]
        rfl
      · exact absurd hcmd List.not_mem_nil

end

/-- The thread that runs the command for a signal has not cleared `thread_`. If a thread that has
not cleared it is in the slot that the signal names, the command makes the script call `Disconnect`
for objects of the device that this thread was started for, and of no other one; for all of them if
the calls raise nothing. -/
def ReachesNamed (addr : ℕ → BtAddr) (answers : ObjectPath → Bool) (objects : List ObjectPath)
    (s : AddressState) (ev : AddressEvent) : Prop :=
  ∀ t controller cmd, ev = .disconnectKey t controller →
    .command t cmd ∈ (s.step (fun handle => (addr handle).serial) ev).2 →
    (∃ w, s.run.workers t = some w ∧ w.pc.attached = true) ∧
    ∀ t' w, s.run.workers t' = some w → w.slot = controller → w.pc.attached = true →
      let tried := disconnectScript ObjectPath.text answers (shellWords cmd) objects
      (∀ path ∈ tried, path.device = some (addr w.handle)) ∧
        ((∀ path ∈ objects, path.device = some (addr w.handle) → answers path = true) →
          ∀ path, path ∈ tried ↔ path ∈ objects ∧ path.device = some (addr w.handle))

theorem reachesNamed_known {addr : ℕ → BtAddr} {s : AddressState}
    (h : s.Known fun handle => (addr handle).serial) (answers : ObjectPath → Bool)
    (objects : List ObjectPath) (ev : AddressEvent) : ReachesNamed addr answers objects s ev := by
  intro t controller cmd hev hmem
  subst hev
  obtain ⟨hraising, rfl⟩ := command_address hmem
  refine ⟨hraising, ?_⟩
  intro t' w hw hslot hattached
  have haddress := h.address t' w hw hattached
  rw [hslot] at haddress
  rw [haddress]
  obtain ⟨hbegin, hall⟩ := disconnectScript_serial answers objects (addr w.handle)
  have hpath (path : ObjectPath) : path ∈ objects.filter (fun path => (addr w.handle).node <:+:
      path.text) ↔ path ∈ objects ∧ path.device = some (addr w.handle) := by
    rw [List.mem_filter, decide_eq_true_iff, node_occurs_iff]
  constructor
  · intro path htried
    exact ((hpath path).mp (hbegin.subset htried)).2
  · intro hanswers path
    rw [hall fun path hown => hanswers path ((hpath path).mp hown).1 ((hpath path).mp hown).2]
    exact hpath path

/-- Over all interleavings, every disconnect signal reaches the controller whose thread is in the
slot that the signal names. -/
theorem disconnect_reaches_named (addr : ℕ → BtAddr) (answers : ObjectPath → Bool)
    (objects : List ObjectPath) (evs : List AddressEvent) :
    Along (AddressState.step fun handle => (addr handle).serial)
      (ReachesNamed addr answers objects) .init evs := by
  apply along_of_invariant _ (AddressState.Known fun handle => (addr handle).serial) evs
  · intro s ev _ h
    exact step_known h ev
  · intro s ev _ h
    exact reachesNamed_known h answers objects ev
  · exact known_init

/-- The controllers by their handles. -/
def exampleAddr (handle : ℕ) : BtAddr where
  bytes := [0x00, 0x06, 0xf7, 0xc9, 0xa1, if handle = 0 then 0x14 else 0xfa]
  length_eq := rfl

def deviceObject (handle : ℕ) : ObjectPath where
  adapter := "/org/bluez/hci0".toList
  device := some (exampleAddr handle)
  part := []
  adapter_plain := by decide
  part_plain := by decide
  part_slash := Or.inl rfl

/-- Two controllers are connected, and the thread of the first one polls. -/
def pollingEvents : List AddressEvent :=
  [.main none, .main none, .main (some .bluetooth), .main none,
    -- the id 0 is taken
    .main none, .main none, .main none, .main (some .bluetooth), .main none,
    .worker 0 false, .worker 0 false]

/-- It signals its own disconnect key, and then that of the other controller. -/
def disconnectEvents : List AddressEvent :=
  pollingEvents ++ [.disconnectKey 0 .first, .disconnectKey 0 .second]

theorem disconnect_reaches_named_both :
    let serial := fun handle => (exampleAddr handle).serial
    .command 0 "psmoveinput_disconnect.py 00:06:f7:c9:a1:14".toList ∈
        (run (AddressState.step serial) .init disconnectEvents).2 ∧
      .command 0 "psmoveinput_disconnect.py 00:06:f7:c9:a1:fa".toList ∈
        (run (AddressState.step serial) .init disconnectEvents).2 ∧
      Along (AddressState.step serial)
        (ReachesNamed exampleAddr (fun _ => true) [deviceObject 1, deviceObject 0]) .init
        disconnectEvents :=
  ⟨by decide +kernel, by decide +kernel, disconnect_reaches_named exampleAddr (fun _ => true)
    [deviceObject 1, deviceObject 0] disconnectEvents⟩

end PSMoveInput
