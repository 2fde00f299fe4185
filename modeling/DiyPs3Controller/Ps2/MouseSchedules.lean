import DiyPs3Controller.Ps2.StartupSequence

/-!
# Schedules of the mouse driver

The driver between its line and the outside: bytes are queued and the main
loop runs `MS_EventTask`. Visible are the command bytes and the dispatched
packets. Drivers that agree on what is queued, on the filter, on the settings
and on the gathered part of the packet cannot be told apart by any schedule.
-/

namespace DiyPs3Controller.MouseSchedules

open RingBuffer Reception UsbJoystick MouseDriver StartupSequence

/-- A byte is queued, or the main loop runs `MS_EventTask`. -/
inductive Schedule
  | receive (data : U8)
  | task
  deriving DecidableEq, Repr

/-- `RING_AddElement` on the driver's buffer. -/
def enqueue (m : Mouse) (data : U8) : Mouse :=
  { m with driver := { m.driver with ringbuffer := m.driver.ringbuffer.addElement data } }

/-- The driver as a machine over schedules. -/
def scheduleMachine : Machine Mouse Schedule MsCall where
  step m
    | .receive data => (enqueue m data, [])
    | .task => msEventTask m

@[simp] theorem scheduleMachine_receive (m : Mouse) (data : U8) :
    scheduleMachine.step m (.receive data) = (enqueue m data, []) := rfl

@[simp] theorem scheduleMachine_task (m : Mouse) : scheduleMachine.step m .task = msEventTask m :=
  rfl

/-- The calls that can be seen from outside. -/
def visible? : MsCall → Option MsCall
  | .sendByte data => some (.sendByte data)
  | .eventDispatcher packet => some (.eventDispatcher packet)
  | .resetState => none
  | .joy _ => none
  | .kbErrorStateLed => none

/-- The command bytes and packets among the calls. -/
def observe (calls : List MsCall) : List MsCall := calls.filterMap visible?

@[simp] theorem observe_nil : observe [] = [] := rfl

@[simp] theorem observe_append (xs ys : List MsCall) :
    observe (xs ++ ys) = observe xs ++ observe ys :=
  List.filterMap_append

@[simp] theorem observe_joy (calls : List JoyCall) : observe (calls.map .joy) = [] := by
  simp [observe, List.filterMap_map, Function.comp_def, visible?]

@[simp] theorem observe_sendByte (bytes : List U8) :
    observe (bytes.map .sendByte) = bytes.map .sendByte := by
  induction bytes with
  | nil => rfl
  | cons b rest ih => exact congrArg (MsCall.sendByte b :: ·) ih

/-- A command byte that can be seen has been sent. -/
theorem sent_of_observe {calls : List MsCall} {data : U8} (h : .sendByte data ∈ observe calls) :
    data ∈ calls.filterMap sent? := by
  obtain ⟨call, hcall, hvisible⟩ := List.mem_filterMap.mp h
  refine List.mem_filterMap.mpr ⟨call, hcall, ?_⟩
  cases call <;> simp_all [visible?, sent?]

/-- The bytes waiting for `MS_EventTask`. -/
def queued (m : Mouse) : List U8 := m.driver.ringbuffer.contents

/-- Two drivers that treat every scancode alike. -/
structure Alike (s t : Mouse) : Prop where
  filter : s.filter = t.filter
  config : s.config = t.config
  size : s.packet.size = t.packet.size
  bytes : s.packet.bytes.take s.packet.size.toNat = t.packet.bytes.take s.packet.size.toNat
  size_lt : s.packet.size < 4#8
  length_left : s.packet.bytes.length = 4
  length_right : t.packet.bytes.length = 4

/-- Two drivers that moreover have the same bytes queued and the same room. -/
structure AlikeQueued (s t : Mouse) : Prop where
  alike : Alike s t
  queue : queued s = queued t
  capacity : s.driver.ringbuffer.1.size = t.driver.ringbuffer.1.size

theorem Alike.symm {s t : Mouse} (h : Alike s t) : Alike t s :=
  ⟨h.filter.symm, h.config.symm, h.size.symm, h.size ▸ h.bytes.symm, h.size ▸ h.size_lt,
    h.length_right, h.length_left⟩

theorem Alike.trans {s t u : Mouse} (h : Alike s t) (h' : Alike t u) : Alike s u :=
  ⟨h.filter.trans h'.filter, h.config.trans h'.config, h.size.trans h'.size,
    h.bytes.trans (by rw [h.size]; exact h'.bytes), h.size_lt, h.length_left, h'.length_right⟩

@[simp] theorem eventFilter_ringbuffer (m : Mouse) (b : U8) :
    (eventFilter m b).1.driver.ringbuffer = m.driver.ringbuffer := by
  have hstep := eventFilter_step m b
  generalize eventFilter m b = next at hstep ⊢
  cases hstep with
  | accepted hm => exact answer_ringbuffer m _
  | retried | gaveUp | skipped | stored | dispatched => rfl

/-- One more gathered byte. -/
theorem take_grown {m : Mouse} (hlen : m.packet.bytes.length = 4) (hlt : m.packet.size < 4#8)
    (b : U8) :
    (grown m b).bytes.take (grown m b).size.toNat =
      m.packet.bytes.take m.packet.size.toNat ++ [b] := by
  have hnat : (m.packet.size + 1#8).toNat = m.packet.size.toNat + 1 := by bv_omega
  have hget : m.packet.size.toNat < m.packet.bytes.length := by
    rw [hlen]
    bv_omega
  simp only [grown, hnat]
  rw [List.take_add_one, List.take_set_of_le (le_refl _), List.getElem?_set_self hget]
  rfl

section Alike
variable {s t : Mouse} (h : Alike s t) (b : U8)
include h

theorem alike_filter (f : FilterVars) : Alike { s with filter := f } { t with filter := f } :=
  ⟨rfl, h.config, h.size, h.bytes, h.size_lt, h.length_left, h.length_right⟩

omit b in
theorem alike_reset : Alike (resetState s).1 (resetState t).1 :=
  ⟨by simp [resetState, sendByte, h.filter], h.config, h.size, h.bytes, h.size_lt, h.length_left,
    h.length_right⟩

omit b in
theorem alike_answer (byte : U8) : Alike (answer s byte).1 (answer t byte).1 := by
  constructor
  · simpa using h.filter
  · simpa using h.config
  · simpa using h.size
  · simpa using h.bytes
  · simpa using h.size_lt
  · simpa using h.length_left
  · simpa using h.length_right

/-- The gathered packets of two such drivers grow alike. -/
theorem alike_grown :
    (grown s b).size = (grown t b).size ∧
      (grown s b).bytes.take (grown s b).size.toNat =
        (grown t b).bytes.take (grown s b).size.toNat := by
  have hsize : (grown s b).size = (grown t b).size := by simp [grown, h.size]
  refine ⟨hsize, ?_⟩
  rw [take_grown h.length_left h.size_lt]
  rw [hsize, take_grown h.length_right (h.size ▸ h.size_lt), h.bytes, h.size]

/-- In the table both drivers take the same branch. -/
theorem eventFilter_alike_table (hp : s.filter.state < s.filter.size) :
    Alike (eventFilter s b).1 (eventFilter t b).1 ∧
      observe (eventFilter s b).2 = observe (eventFilter t b).2 := by
  have hpt : t.filter.state < t.filter.size := h.filter ▸ hp
  by_cases hm : Matches s b
  · have hmt : Matches t b := by
      have hms := hm
      rwa [Matches, h.filter] at hms
    rw [eventFilter_match hm, eventFilter_match hmt, ← h.filter]
    exact ⟨alike_filter (alike_answer h _) _, by rw [answer_calls, answer_calls, h.config]⟩
  have hmt : ¬ Matches t b := by
    have hms := hm
    rwa [Matches, h.filter] at hms
  by_cases hr : s.filter.retry < 5#8
  · rw [eventFilter_retry hp hm hr, eventFilter_retry hpt hmt (h.filter ▸ hr), ← h.filter]
    exact ⟨alike_reset (alike_filter h _), rfl⟩
  · rw [eventFilter_giveUp hp hm hr, eventFilter_giveUp hpt hmt (h.filter ▸ hr), ← h.filter]
    exact ⟨alike_filter h _, rfl⟩

/-- Past the table both drivers gather the same packet. -/
theorem eventFilter_alike_past (hp : Past s) :
    Alike (eventFilter s b).1 (eventFilter t b).1 ∧
      observe (eventFilter s b).2 = observe (eventFilter t b).2 := by
  have hpt : Past t := by
    have hps := hp
    rwa [Past, h.filter] at hps
  by_cases hk : Skipped s b
  · have hkt : Skipped t b := by
      have hks := hk
      rwa [Skipped, h.size] at hks
    rw [eventFilter_skip hp hk, eventFilter_skip hpt hkt]
    exact ⟨h, rfl⟩
  have hkt : ¬ Skipped t b := by
    have hks := hk
    rwa [Skipped, h.size] at hks
  obtain ⟨hsize, hbytes⟩ := alike_grown h b
  have hlength : (grown s b).bytes.length = 4 := by simpa [grown] using h.length_left
  have hlength' : (grown t b).bytes.length = 4 := by simpa [grown] using h.length_right
  by_cases hfull : (grown s b).size = 4#8
  · have hpacket : grown s b = grown t b := by
      rw [hfull, List.take_of_length_le (by simp [hlength]),
        List.take_of_length_le (by simp [hlength'])] at hbytes
      rw [Packet.mk.injEq]
      exact ⟨hsize, hbytes⟩
    rw [eventFilter_dispatch hp hk hfull, eventFilter_dispatch hpt hkt (hsize ▸ hfull)]
    refine ⟨⟨by simp [h.filter], h.config, rfl, by simp, (by decide : 0#8 < 4#8), hlength,
      hlength'⟩, ?_⟩
    simp only [observe, List.filterMap_cons, visible?, hpacket]
    rw [← observe, ← observe, observe_joy, observe_joy]
  · rw [eventFilter_store hp hk hfull, eventFilter_store hpt hkt (hsize ▸ hfull)]
    have hlt : (grown s b).size < 4#8 := by
      have hold := h.size_lt
      simp only [grown] at hfull ⊢
      bv_omega
    exact ⟨⟨by simp [h.filter], h.config, hsize, hbytes, hlt, hlength, hlength'⟩, rfl⟩

/-- A scancode leaves such drivers alike and shows the same. -/
theorem eventFilter_alike :
    Alike (eventFilter s b).1 (eventFilter t b).1 ∧
      observe (eventFilter s b).2 = observe (eventFilter t b).2 := by
  by_cases hp : s.filter.state < s.filter.size
  · exact eventFilter_alike_table h b hp
  · exact eventFilter_alike_past h b hp

end Alike

/-- Scancodes for the event filter. -/
def scancodes (bytes : List U8) : List FilterInput := bytes.map .scancode

/-- Taking the oldest byte leaves the driver alike. -/
theorem getScancode_cons {m : Mouse} {b : U8} {rest : List U8} (h : queued m = b :: rest) :
    hasScancode m = true ∧ (getScancode m).2 = b ∧ queued (getScancode m).1 = rest := by
  have hne : m.driver.ringbuffer.contents ≠ [] := by
    have hq : m.driver.ringbuffer.contents = b :: rest := h
    simp [hq]
  have hhead := Ring.contents_eq_getElement hne
  have hq : m.driver.ringbuffer.contents = b :: rest := h
  rw [hq, List.cons.injEq] at hhead
  refine ⟨?_, hhead.1.symm, hhead.2.symm⟩
  simp [hasScancode, Ring.hasElement_eq, hq]

/-- The loop of `MS_EventTask` filters the queued bytes one after the other. -/
theorem filterScancodes_run (fuel : Nat) {m t : Mouse} (h : Alike m t)
    (hfuel : (queued m).length = fuel) :
    Alike (filterScancodes fuel m).1 (filterMachine.state t (scancodes (queued m))) ∧
      observe (filterScancodes fuel m).2 =
        observe (filterMachine.outputs t (scancodes (queued m))) ∧
      queued (filterScancodes fuel m).1 = [] ∧
      (filterScancodes fuel m).1.driver.ringbuffer.1.size = m.driver.ringbuffer.1.size := by
  induction fuel generalizing m t with
  | zero =>
      have hnil : queued m = [] := List.length_eq_zero_iff.mp hfuel
      rw [hnil]
      exact ⟨h, rfl, hnil, rfl⟩
  | succ fuel ih =>
      obtain ⟨b, rest, hqueue⟩ := List.exists_cons_of_length_eq_add_one hfuel
      obtain ⟨hhas, hbyte, hrest⟩ := getScancode_cons hqueue
      have htaken : Alike (getScancode m).1 t :=
        ⟨h.filter, h.config, h.size, h.bytes, h.size_lt, h.length_left, h.length_right⟩
      obtain ⟨halike, hout⟩ := eventFilter_alike htaken b
      have hring : (eventFilter (getScancode m).1 b).1.driver.ringbuffer =
          (getScancode m).1.driver.ringbuffer := eventFilter_ringbuffer _ _
      have hkept : queued (eventFilter (getScancode m).1 b).1 = rest := by
        rw [queued, hring]
        exact hrest
      have hlen : (queued (eventFilter (getScancode m).1 b).1).length = fuel := by
        rw [hkept]
        rw [hqueue, List.length_cons] at hfuel
        omega
      obtain ⟨hstate, hobs, hempty, hsize⟩ := ih halike hlen
      rw [hkept] at hstate hobs
      rw [filterScancodes, if_pos hhas, hqueue]
      simp only [hbyte]
      refine ⟨hstate, ?_, hempty, ?_⟩
      · simp only [scancodes, List.map_cons, Machine.outputs_cons, observe_append, hobs]
        exact congrArg (· ++ _) hout
      · rw [hsize, hring]
        exact Ring.getElement_size _

/-- `MS_EventTask` filters the queued bytes and shows nothing else. -/
theorem task_run {m t : Mouse} (h : Alike m t) :
    Alike (msEventTask m).1 (filterMachine.state t (scancodes (queued m))) ∧
      observe (msEventTask m).2 = observe (filterMachine.outputs t (scancodes (queued m))) ∧
      queued (msEventTask m).1 = [] ∧
      (msEventTask m).1.driver.ringbuffer.1.size = m.driver.ringbuffer.1.size := by
  obtain ⟨hstate, hobs, hempty, hsize⟩ := filterScancodes_run _ h rfl
  simp only [msEventTask]
  split
  · refine ⟨⟨hstate.filter, hstate.config, hstate.size, hstate.bytes, hstate.size_lt,
      hstate.length_left, hstate.length_right⟩, ?_, hempty, hsize⟩
    rw [observe_append, observe_joy, List.append_nil]
    exact hobs
  · exact ⟨hstate, hobs, hempty, hsize⟩

/-- No schedule tells drivers apart that are alike and have the same bytes queued. -/
theorem alikeQueued_step (s t : Mouse) (input : Schedule) (h : AlikeQueued s t) :
    AlikeQueued (scheduleMachine.step s input).1 (scheduleMachine.step t input).1 ∧
      observe (scheduleMachine.step s input).2 = observe (scheduleMachine.step t input).2 := by
  cases input with
  | receive data =>
      obtain ⟨h, hqueue, hsize⟩ := h
      have hcontents : s.driver.ringbuffer.contents = t.driver.ringbuffer.contents := hqueue
      have hroom : s.driver.ringbuffer.HasRoom ↔ t.driver.ringbuffer.HasRoom := by
        rw [Ring.hasRoom_iff, Ring.hasRoom_iff, hcontents, hsize]
      refine ⟨⟨⟨h.filter, h.config, h.size, h.bytes, h.size_lt, h.length_left, h.length_right⟩,
        ?_, ?_⟩, rfl⟩
      · simp only [scheduleMachine, enqueue, queued]
        by_cases hs : s.driver.ringbuffer.HasRoom
        · rw [Ring.contents_addElement hs, Ring.contents_addElement (hroom.mp hs), hcontents]
        · rw [Ring.addElement_full hs, Ring.addElement_full (mt hroom.mpr hs), hcontents]
      · simpa [scheduleMachine, enqueue] using hsize
  | task =>
      obtain ⟨hs, hobs, hempty, hsize⟩ := task_run h.alike
      have hself : Alike t t := h.alike.symm.trans h.alike
      obtain ⟨ht, hobs', hempty', hsize'⟩ := task_run hself
      rw [h.queue] at hs hobs
      exact ⟨⟨hs.trans ht.symm, hempty.trans hempty'.symm,
        hsize.trans (h.capacity.trans hsize'.symm)⟩, hobs.trans hobs'.symm⟩

theorem alikeQueued_run {s t : Mouse} (h : AlikeQueued s t) (inputs : List Schedule) :
    observe (scheduleMachine.outputs s inputs) = observe (scheduleMachine.outputs t inputs) :=
  (Machine.simulation AlikeQueued alikeQueued_step h inputs).2

/-- Each byte is queued and then taken. -/
def feed (bytes : List U8) : List Schedule := bytes.flatMap fun b => [.receive b, .task]

/-- Bytes fed to a driver with nothing queued reach its filter one by one. -/
theorem feed_run (bytes : List U8) {m t : Mouse} (h : Alike m t) (hempty : queued m = [])
    (hroom : m.driver.ringbuffer.1.size ≠ 0#8) :
    observe (scheduleMachine.outputs m (feed bytes)) =
      observe (filterMachine.outputs t (scancodes bytes)) := by
  induction bytes generalizing m t with
  | nil => rfl
  | cons b rest ih =>
      have hcontents : m.driver.ringbuffer.contents = [] := hempty
      have hhas : m.driver.ringbuffer.HasRoom := by
        rw [Ring.hasRoom_iff, hcontents, List.length_nil]
        bv_omega
      have hqueue : queued (enqueue m b) = [b] := by
        simp [queued, enqueue, Ring.contents_addElement hhas, hcontents]
      have hlike : Alike (enqueue m b) t :=
        ⟨h.filter, h.config, h.size, h.bytes, h.size_lt, h.length_left, h.length_right⟩
      obtain ⟨hstate, hobs, hdone, hsize⟩ := task_run hlike
      rw [hqueue] at hstate hobs
      simp only [scancodes, List.map_cons, List.map_nil, Machine.state_cons, Machine.state_nil,
        Machine.outputs_cons, Machine.outputs_nil, List.append_nil] at hstate hobs
      have hrest := ih hstate hdone (by rw [hsize]; simpa [enqueue] using hroom)
      have hfeed : feed (b :: rest) = .receive b :: .task :: feed rest := rfl
      have hcodes : scancodes (b :: rest) = .scancode b :: scancodes rest := rfl
      rw [hfeed, hcodes]
      simp only [Machine.outputs_cons, scheduleMachine_receive, scheduleMachine_task,
        List.nil_append, observe_append, hobs, hrest]

/-- A run of the main loop followed by fed bytes shows what the filter does with
the queued bytes and then the fed ones. -/
theorem drained_run (m : Mouse) (bytes : List U8) (h : Alike m m)
    (hroom : m.driver.ringbuffer.1.size ≠ 0#8) :
    observe (scheduleMachine.outputs m (.task :: feed bytes)) =
      observe (filterMachine.outputs m (scancodes (queued m ++ bytes))) := by
  obtain ⟨hstate, hobs, hdone, hsize⟩ := task_run h
  have hrest := feed_run bytes hstate hdone (hsize ▸ hroom)
  rw [Machine.outputs_cons, observe_append, scancodes, List.map_append, Machine.outputs_append,
    observe_append]
  exact congrArg₂ (· ++ ·) hobs hrest

end DiyPs3Controller.MouseSchedules
