import DiyPs3Controller.Foundations.Machines
import DiyPs3Controller.Foundations.DeadZones
import DiyPs3Controller.Ps2.Avr

/-!
# The proxy of the Sixaxis

The proxy stands between a controller and the console. It corrects four fields
of every input report of the controller, so that a movement around the centre
is not lost in the dead zone of the console, and forwards all other packets as
they are. The centres and radii of the corrections are `int` variables that the
keys of the terminal count up and down.
-/

namespace DiyPs3Controller.SixProxy

/-- A value assigned to a `short`. -/
def toShort (x : Int) : Int := x.bmod 65536

/-- A value assigned to an `int`. An overflow wraps around. -/
def toInt (x : Int) : Int := x.bmod 4294967296

/-- `param` -/
structure Param where
  sixhc : Int
  sixhr : Int
  sixvc : Int
  sixvr : Int
  stkhc : Int
  stkhr : Int
  stkvc : Int
  stkvr : Int
  deriving DecidableEq, Repr

/-- The bytes of an input report. -/
abbrev Payload := Vector U8 54

/-- `data[i] = b` -/
def store (data : Payload) (i : Fin 54) (b : U8) : Payload := data.set i b i.isLt

/-- `(char)((val >> 8) & 0xff)` -/
def highByte (val : Int) : U8 := BitVec.ofInt 8 (val >>> (8 : Nat))

/-- `(char)(val & 0xff)` -/
def lowByte (val : Int) : U8 := BitVec.ofInt 8 val

/-- The first `if` of a correction. -/
def correctUp (centre radius hi val : Int) : Int :=
  if val ≥ centre then
    let val := toShort (val + radius)
    if val > hi then hi else val
  else val

/-- The second `if` of a correction. It tests what the first one has left. -/
def correctDown (centre radius lo val : Int) : Int :=
  if val < centre then
    let val := toShort (val - radius)
    if val < lo then lo else val
  else val

def correct (centre radius lo hi val : Int) : Int :=
  correctDown centre radius lo (correctUp centre radius hi val)

/-- The two bytes of a motion field, high byte first. -/
def motionField (data : Payload) (high low : Fin 54) : Int :=
  256 * (data.get high).toNat + (data.get low).toNat

/-- The correction of a motion field. -/
def correctMotion (centre radius : Int) (high low : Fin 54) (data : Payload) : Payload :=
  let val := correct centre radius 0x100 0x2FF (toShort (motionField data high low))
  store (store data high (highByte val)) low (lowByte val)

/-- The correction of an analog stick. -/
def correctStick (centre radius : Int) (i : Fin 54) (data : Payload) : Payload :=
  store data i (lowByte (correct centre radius 0x00 0xFF (toShort (data.get i).toNat)))

/-- `kill_deadzone` -/
def killDeadzone (param : Param) (data : Payload) : Payload :=
  let data := correctMotion param.sixhc param.sixhr 46 47 data
  let data := correctMotion param.sixvc param.sixvr 48 49 data
  let data := correctStick param.stkhc param.stkhr 11 data
  correctStick param.stkvc param.stkvr 12 data

/-- `user_interface`, with what `fgetc` reads from the terminal, if anything. -/
def userInterface (param : Param) : Option Char → Param
  | some 'a' => { param with sixhc := toInt (param.sixhc + 1) }
  | some 'z' => { param with sixhr := toInt (param.sixhr + 1) }
  | some 'e' => { param with sixvc := toInt (param.sixvc + 1) }
  | some 'r' => { param with sixvr := toInt (param.sixvr + 1) }
  | some 't' => { param with stkhc := toInt (param.stkhc + 1) }
  | some 'y' => { param with stkhr := toInt (param.stkhr + 1) }
  | some 'u' => { param with stkvc := toInt (param.stkvc + 1) }
  | some 'i' => { param with stkvr := toInt (param.stkvr + 1) }
  | some 'q' => { param with sixhc := toInt (param.sixhc - 1) }
  | some 's' => { param with sixhr := toInt (param.sixhr - 1) }
  | some 'd' => { param with sixvc := toInt (param.sixvc - 1) }
  | some 'f' => { param with sixvr := toInt (param.sixvr - 1) }
  | some 'g' => { param with stkhc := toInt (param.stkhc - 1) }
  | some 'h' => { param with stkhr := toInt (param.stkhr - 1) }
  | some 'j' => { param with stkvc := toInt (param.stkvc - 1) }
  | some 'k' => { param with stkvr := toInt (param.stkvr - 1) }
  | _ => param

/-- The parameters that `main` starts with. -/
def mainParam : Param where
  sixhc := 0x203
  sixhr := 7
  sixvc := 0x205
  sixvr := 10
  stkhc := 0x80
  stkhr := 20
  stkvc := 0x80
  stkvr := 20

/-- The parameters after some turns of the loop of `main`. -/
def keyedParam (keys : List (Option Char)) : Param := keys.foldl userInterface mainParam

/-- A packet with the handle of the connection that it comes from or goes to. -/
structure AclPacket where
  handle : U16
  data : List U8
  deriving DecidableEq, Repr

/-- The variables of `main` that live through the loop. -/
structure Proxy where
  param : Param
  hsix : U16
  hps3 : U16
  packet : AclPacket
  deriving DecidableEq, Repr

/-- What a turn of the loop reads: the next packet and the terminal. -/
structure Turn where
  packet : AclPacket
  key : Option Char
  deriving DecidableEq, Repr

/-- `if (plen == 54) kill_deadzone (buf)` -/
def corrected (param : Param) (data : List U8) : List U8 :=
  if h : data.length = 54 then (killDeadzone param ⟨data.toArray, h⟩).toList else data

/-- What a turn of the loop leaves in the buffer. -/
def Proxy.buf (s : Proxy) : List U8 :=
  if s.packet.handle = s.hsix then corrected s.param s.packet.data else s.packet.data

/-- The calls of `send_acl_data` in a turn of the loop. -/
def Proxy.forward (s : Proxy) : List AclPacket :=
  (if s.packet.handle = s.hsix then [{ handle := s.hps3, data := s.buf }] else []) ++
    (if s.packet.handle = s.hps3 then [{ handle := s.hsix, data := s.buf }] else [])

/-- `for (;;)` of `main` -/
def mainLoop : Machine Proxy Turn AclPacket where
  step s turn :=
    ({ s with packet := turn.packet, param := userInterface s.param turn.key }, s.forward)

/-- The state of `main` at its loop: the first packet names the controller. -/
def connected (first : AclPacket) (hps3 : U16) : Proxy where
  param := mainParam
  hsix := first.handle
  hps3 := hps3
  packet := first

theorem get_store (data : Payload) (i j : Fin 54) (b : U8) :
    (store data i b).get j = if i = j then b else data.get j := by
  have hget (v : Payload) : v.get j = v[j.val] := rfl
  simp only [hget, store, Vector.getElem_set, Fin.ext_iff]

theorem get_store_self (data : Payload) (i : Fin 54) (b : U8) : (store data i b).get i = b := by
  rw [get_store, if_pos rfl]

theorem get_store_of_ne (data : Payload) {i j : Fin 54} (b : U8) (h : j ≠ i) :
    (store data i b).get j = data.get j := by
  rw [get_store, if_neg h.symm]

theorem toNat_lowByte (val : Int) : ((lowByte val).toNat : Int) = val % 256 := by
  have hpow : ((2 ^ 8 : Nat) : Int) = 256 := rfl
  rw [lowByte, BitVec.toNat_ofInt, hpow]
  exact Int.toNat_of_nonneg (Int.emod_nonneg val (by decide))

theorem toNat_highByte (val : Int) : ((highByte val).toNat : Int) = val / 256 % 256 := by
  have hpow : ((2 ^ 8 : Nat) : Int) = 256 := rfl
  rw [← toNat_lowByte, highByte, lowByte, Int.shiftRight_eq_div_pow, hpow]

theorem toShort_eq {x : Int} (h : -32768 ≤ x ∧ x ≤ 32767) : toShort x = x := by
  unfold toShort
  exact Int.bmod_eq_of_le (by omega) (by omega)

theorem toShort_range (x : Int) : -32768 ≤ toShort x ∧ toShort x ≤ 32767 := by
  have hlow := Int.le_bmod (x := x) (m := 65536) (by decide)
  have hhigh := Int.bmod_lt (x := x) (m := 65536) (by decide)
  unfold toShort
  omega

/-- One wrap-around to either side of a `short`. -/
theorem toShort_cases {x : Int} (h : -98304 ≤ x ∧ x ≤ 98303) :
    toShort x = if x < -32768 then x + 65536 else if x ≤ 32767 then x else x - 65536 := by
  split_ifs with hlow hhigh
  · rw [toShort, ← Int.add_bmod_right]
    exact toShort_eq (by omega)
  · exact toShort_eq (by omega)
  · rw [toShort, ← Int.sub_bmod_right]
    exact toShort_eq (by omega)

section Corrections
variable (centre radius : Int) (data : Payload)

theorem get_correctMotion_of_ne {high low j : Fin 54} (hhigh : j ≠ high) (hlow : j ≠ low) :
    (correctMotion centre radius high low data).get j = data.get j := by
  rw [correctMotion, get_store_of_ne _ _ hlow, get_store_of_ne _ _ hhigh]

theorem get_correctStick_of_ne {i j : Fin 54} (h : j ≠ i) :
    (correctStick centre radius i data).get j = data.get j :=
  get_store_of_ne _ _ h

theorem motionField_correctMotion {high low : Fin 54} (h : high ≠ low) :
    motionField (correctMotion centre radius high low data) high low =
      correct centre radius 0x100 0x2FF (toShort (motionField data high low)) % 65536 := by
  have hhigh : (correctMotion centre radius high low data).get high =
      highByte (correct centre radius 0x100 0x2FF (toShort (motionField data high low))) := by
    rw [correctMotion, get_store_of_ne _ _ h, get_store_self]
  have hlow : (correctMotion centre radius high low data).get low =
      lowByte (correct centre radius 0x100 0x2FF (toShort (motionField data high low))) := by
    rw [correctMotion, get_store_self]
  rw [motionField, hhigh, hlow, toNat_highByte, toNat_lowByte]
  omega

theorem get_correctStick (i : Fin 54) :
    (((correctStick centre radius i data).get i).toNat : Int) =
      correct centre radius 0x00 0xFF (toShort (data.get i).toNat) % 256 := by
  rw [correctStick, get_store_self, toNat_lowByte]

end Corrections

/-- The corrected fields. -/
inductive Field
  | sixh
  | sixv
  | stkh
  | stkv
  deriving DecidableEq, Repr

namespace Field

/-- The motion fields have two bytes, the others one. -/
def IsMotion (f : Field) : Prop := f = sixh ∨ f = sixv

instance (f : Field) : Decidable f.IsMotion := inferInstanceAs (Decidable (_ ∨ _))

def centre (param : Param) : Field → Int
  | sixh => param.sixhc
  | sixv => param.sixvc
  | stkh => param.stkhc
  | stkv => param.stkvc

def radius (param : Param) : Field → Int
  | sixh => param.sixhr
  | sixv => param.sixvr
  | stkh => param.stkhr
  | stkv => param.stkvr

/-- The lower bound of the correction. -/
def lo (f : Field) : Int := if f.IsMotion then 0x100 else 0x00

/-- The upper bound of the correction. -/
def hi (f : Field) : Int := if f.IsMotion then 0x2FF else 0xFF

/-- The number of values that the bytes of the field can hold. -/
def capacity (f : Field) : Int := if f.IsMotion then 65536 else 256

/-- The unsigned value of the field. -/
def value (data : Payload) : Field → Int
  | sixh => motionField data 46 47
  | sixv => motionField data 48 49
  | stkh => (data.get 11).toNat
  | stkv => (data.get 12).toNat

/-- `val` before the two corrections of the field. -/
def val (data : Payload) (f : Field) : Int := toShort (f.value data)

/-- `val` after the two corrections of the field. -/
def corrected (param : Param) (data : Payload) (f : Field) : Int :=
  correct (f.centre param) (f.radius param) f.lo f.hi (f.val data)

/-- Each field is corrected with its own parameters and bounds, and by nothing
else. -/
theorem value_killDeadzone (param : Param) (data : Payload) (f : Field) :
    f.value (killDeadzone param data) = f.corrected param data % f.capacity := by
  -- the four corrections touch disjoint bytes
  let sixh := correctMotion param.sixhc param.sixhr 46 47 data
  let sixv := correctMotion param.sixvc param.sixvr 48 49 sixh
  let stkh := correctStick param.stkhc param.stkhr 11 sixv
  have hsix {i : Fin 54} (h₁₂ : i ≠ 12) (h₁₁ : i ≠ 11) :
      (killDeadzone param data).get i = sixv.get i :=
    (get_correctStick_of_ne _ _ stkh h₁₂).trans (get_correctStick_of_ne _ _ sixv h₁₁)
  have hstk {i : Fin 54} (h₄₆ : i ≠ 46) (h₄₇ : i ≠ 47) (h₄₈ : i ≠ 48) (h₄₉ : i ≠ 49) :
      sixv.get i = data.get i :=
    (get_correctMotion_of_ne _ _ sixh h₄₈ h₄₉).trans (get_correctMotion_of_ne _ _ data h₄₆ h₄₇)
  cases f with
  | sixh =>
      have hvalue : value (killDeadzone param data) .sixh = motionField sixh 46 47 := by
        simp only [value, motionField]
        rw [hsix (by decide) (by decide), hsix (by decide) (by decide),
          get_correctMotion_of_ne _ _ sixh (by decide) (by decide),
          get_correctMotion_of_ne _ _ sixh (by decide) (by decide)]
      rw [hvalue]
      exact motionField_correctMotion _ _ data (by decide)
  | sixv =>
      have hvalue : value (killDeadzone param data) .sixv = motionField sixv 48 49 := by
        simp only [value, motionField]
        rw [hsix (by decide) (by decide), hsix (by decide) (by decide)]
      have hbefore : motionField sixh 48 49 = motionField data 48 49 := by
        simp only [motionField]
        rw [get_correctMotion_of_ne _ _ data (by decide) (by decide),
          get_correctMotion_of_ne _ _ data (by decide) (by decide)]
      rw [hvalue, motionField_correctMotion _ _ sixh (by decide), hbefore]
      rfl
  | stkh =>
      have hvalue : (killDeadzone param data).get 11 = stkh.get 11 :=
        get_correctStick_of_ne _ _ stkh (by decide)
      have hbefore : sixv.get 11 = data.get 11 :=
        hstk (by decide) (by decide) (by decide) (by decide)
      rw [value, hvalue, get_correctStick, hbefore]
      rfl
  | stkv =>
      have hbefore : stkh.get 12 = data.get 12 :=
        (get_correctStick_of_ne _ _ sixv (by decide)).trans
          (hstk (by decide) (by decide) (by decide) (by decide))
      have hvalue := get_correctStick param.stkvc param.stkvr stkh 12
      rw [hbefore] at hvalue
      exact hvalue

end Field

/-- Every other byte stays. -/
theorem get_killDeadzone (param : Param) (data : Payload) {i : Fin 54}
    (h : i ∉ [11, 12, 46, 47, 48, 49]) : (killDeadzone param data).get i = data.get i := by
  simp only [List.mem_cons, List.not_mem_nil, or_false, not_or] at h
  obtain ⟨h₁₁, h₁₂, h₄₆, h₄₇, h₄₈, h₄₉⟩ := h
  simp only [killDeadzone]
  rw [get_correctStick_of_ne _ _ _ h₁₂, get_correctStick_of_ne _ _ _ h₁₁,
    get_correctMotion_of_ne _ _ _ h₄₈ h₄₉, get_correctMotion_of_ne _ _ _ h₄₆ h₄₇]

theorem corrected_report (param : Param) (report : Payload) :
    corrected param report.toList = (killDeadzone param report).toList :=
  dif_pos report.length_toList

theorem corrected_length_iff (param : Param) (data : List U8) :
    (corrected param data).length = 54 ↔ data.length = 54 := by
  unfold corrected
  split_ifs with h
  · simp only [Vector.length_toList, h]
  · rfl

/-- The keys of the turns so far have set the parameters, and the connections stay. -/
theorem mainLoop_state (first : AclPacket) (hps3 : U16) (turns : List Turn) :
    let s := mainLoop.state (connected first hps3) turns
    s.param = keyedParam (turns.map Turn.key) ∧ s.hsix = first.handle ∧ s.hps3 = hps3 := by
  let H (read : List Turn) (s : Proxy) : Prop :=
    s.param = keyedParam (read.map Turn.key) ∧ s.hsix = first.handle ∧ s.hps3 = hps3
  have step (read : List Turn) (s : Proxy) (turn : Turn) (h : H read s) :
      H (read ++ [turn]) (mainLoop.step s turn).1 := by
    obtain ⟨hparam, hhsix, hhps3⟩ := h
    refine ⟨?_, hhsix, hhps3⟩
    rw [keyedParam, List.map_append, List.foldl_append, ← keyedParam, ← hparam]
    rfl
  have hstart : H [] (connected first hps3) := ⟨rfl, rfl, rfl⟩
  exact Machine.history_of_step step hstart turns

/-- What the controller sends goes to the console, corrected if it is a report. -/
theorem forward_controller {s : Proxy} (hne : s.hsix ≠ s.hps3)
    (h : s.packet.handle = s.hsix) :
    s.forward = [{ handle := s.hps3, data := corrected s.param s.packet.data }] := by
  rw [Proxy.forward, Proxy.buf, if_pos h, if_pos h, if_neg (h ▸ hne)]
  rfl

/-- What the console sends goes to the controller as it is. -/
theorem forward_console {s : Proxy} (hne : s.hsix ≠ s.hps3) (h : s.packet.handle = s.hps3) :
    s.forward = [{ handle := s.hsix, data := s.packet.data }] := by
  have hsix : s.packet.handle ≠ s.hsix := fun hs => hne (hs.symm.trans h)
  rw [Proxy.forward, Proxy.buf, if_neg hsix, if_neg hsix, if_pos h]
  rfl

/-- Other packets are dropped. -/
theorem forward_other {s : Proxy} (hsix : s.packet.handle ≠ s.hsix)
    (hps3 : s.packet.handle ≠ s.hps3) : s.forward = [] := by
  rw [Proxy.forward, if_neg hsix, if_neg hps3]
  rfl

end DiyPs3Controller.SixProxy
