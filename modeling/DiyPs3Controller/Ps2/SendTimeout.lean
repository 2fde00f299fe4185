import DiyPs3Controller.Foundations.Deadlines
import DiyPs3Controller.Ps2.UsbSend

/-!
# The timeout of a report

`usb_joystick_send` waits for its endpoint until the frame number equals a
timeout that it has computed before. Interrupt handlers run between its
statements and may take several frames, so the sampled frame numbers may pass
the timeout by.
-/

namespace DiyPs3Controller.SendTimeout

open UsbSend Deadlines

/-- What a call meets at each of its statements: the number of the frame, the
interrupts before the statement, and an endpoint that is never ready. -/
structure Environment where
  frame : Nat → Nat
  monotone : Monotone frame
  interrupts : Nat → List Interrupt
  ueintx : Nat → U8
  unready : ∀ n, (ueintx n).getLsbD rwal = false

namespace Environment

variable (env : Environment)

/-- The low byte of the frame number. -/
def udfnuml (n : Nat) : U8 := BitVec.ofNat 8 (env.frame n)

/-- The interrupts before a statement, and the statement. -/
def window (n : Nat) : List SendInput :=
  (env.interrupts n).map .interrupt ++ [.statement (env.ueintx n) (env.udfnuml n)]

/-- The first `n` statements with all interrupts before them. -/
def inputs : Nat → List SendInput
  | 0 => []
  | n + 1 => inputs n ++ env.window n

/-- The statement that computes the timeout. -/
def startAt : Nat := 4

/-- The statement that tests the timeout for the `k`-th time. -/
def pollAt (k : Nat) : Nat := 8 + 7 * k

/-- The frames that have passed at the `k`-th test since the timeout was computed. -/
def elapsed (k : Nat) : Nat := env.frame (pollAt k) - env.frame startAt

theorem elapsed_monotone : Monotone env.elapsed := by
  intro j k hjk
  apply Nat.sub_le_sub_right
  apply env.monotone
  unfold pollAt
  omega

theorem frame_pollAt (k : Nat) : env.frame (pollAt k) = env.frame startAt + env.elapsed k := by
  have hle : env.frame startAt ≤ env.frame (pollAt k) :=
    env.monotone (by unfold startAt pollAt; omega)
  rw [elapsed, Nat.add_sub_cancel' hle]

end Environment

open Environment

/-- A call after `n` statements. -/
def callAfter (c : Call) (env : Environment) (n : Nat) : Call :=
  sendMachine.state (begun c) (env.inputs n)

/-- The device is configured throughout. -/
def StaysConfigured (c : Call) (env : Environment) : Prop :=
  ∀ n, (callAfter c env n).usb.usbConfiguration ≠ 0#8

/-- The call returns -1 at its `k`-th test. -/
def ReturnsAt (c : Call) (env : Environment) (k : Nat) : Prop :=
  (callAfter c env (pollAt k)).point = .testTimeout ∧
    (callAfter c env (pollAt k + 1)).point = .returned (-1)

/-- At this test at least 50 frames and fewer than 256 have passed since the
timeout was computed. -/
def Overdue (env : Environment) : Nat → Prop := Due 8 50 env.elapsed

/-- The first test that is overdue is the one at which the call returns. -/
def GivesUpOnTime (c : Call) (env : Environment) : Prop :=
  ∀ k, First (Overdue env) k → ReturnsAt c env k

/-- The next statement of a configured call that finds its endpoint not ready. -/
def nextWaiting (timeout udfnuml : U8) : Point → Point
  | .testConfiguration => .saveSreg
  | .saveSreg => .disable
  | .disable => .selectEndpoint
  | .selectEndpoint => .startTimeout
  | .startTimeout => .readReady
  | .readReady => .restoreSreg
  | .restoreSreg => .retestConfiguration
  | .retestConfiguration => .testTimeout
  | .testTimeout => if udfnuml = timeout then .returned (-1) else .saveSregAgain
  | .saveSregAgain => .disableAgain
  | .disableAgain => .selectEndpointAgain
  | .selectEndpointAgain => .readReady
  | .sendCode k => if h : k.val + 1 < 6 then .sendCode ⟨k.val + 1, h⟩ else .releaseBank
  | .releaseBank => .restoreSregLast
  | .restoreSregLast => .leave
  | .leave => .returned 0
  | .returned result => .returned result

/-- The timeout behind a statement. -/
def nextTimeout (timeout udfnuml : U8) : Point → U8
  | .startTimeout => udfnuml + 50#8
  | _ => timeout

section Statement
variable (c : Call) (ueintx udfnuml : U8)

/-- No statement changes the configuration. -/
theorem next_usbConfiguration :
    (c.next ueintx udfnuml).1.usb.usbConfiguration = c.usb.usbConfiguration := by
  obtain ⟨sreg, usb, joy, intrState, timeout, point⟩ := c
  cases point <;> rfl

theorem next_timeout :
    (c.next ueintx udfnuml).1.timeout = nextTimeout c.timeout udfnuml c.point := by
  obtain ⟨sreg, usb, joy, intrState, timeout, point⟩ := c
  cases point <;> rfl

theorem next_point (configured : c.usb.usbConfiguration ≠ 0#8)
    (unready : ueintx.getLsbD rwal = false) :
    (c.next ueintx udfnuml).1.point = nextWaiting c.timeout udfnuml c.point := by
  obtain ⟨sreg, usb, joy, intrState, timeout, point⟩ := c
  cases point with
  | testConfiguration | retestConfiguration => exact if_neg configured
  | readReady => simp [Call.next, nextWaiting, unready]
  | _ => rfl

end Statement

/-- An interrupt, taken or not, changes nothing but what its handler writes. -/
theorem interrupt_state (c : Call) (interrupt : Interrupt) :
    ∃ usb, (sendMachine.step c (.interrupt interrupt)).1 = { c with usb := usb } := by
  simp only [sendMachine]
  split
  · exact ⟨interrupt.handle c.usb, rfl⟩
  · exact ⟨c.usb, rfl⟩

/-- The interrupts before a statement change nothing but what their handlers write. -/
theorem interrupts_state (c : Call) (interrupts : List Interrupt) :
    ∃ usb, sendMachine.state c (interrupts.map .interrupt) = { c with usb := usb } := by
  induction interrupts generalizing c with
  | nil => exact ⟨c.usb, rfl⟩
  | cons interrupt rest ih =>
      obtain ⟨usb, husb⟩ := interrupt_state c interrupt
      obtain ⟨usb', hrest⟩ := ih { c with usb := usb }
      refine ⟨usb', ?_⟩
      rw [List.map_cons, Machine.state_cons, husb, hrest]

section Waiting
variable {c : Call} {env : Environment}

/-- The next statement works on the call as the interrupts before it leave it. -/
theorem callAfter_succ (c : Call) (env : Environment) (n : Nat) :
    ∃ usb, callAfter c env (n + 1) =
      ({ callAfter c env n with usb := usb }.next (env.ueintx n) (env.udfnuml n)).1 := by
  obtain ⟨usb, husb⟩ := interrupts_state (callAfter c env n) (env.interrupts n)
  refine ⟨usb, ?_⟩
  rw [callAfter, Environment.inputs, Environment.window, Machine.state_append, Machine.state_append,
    ← callAfter, husb]
  rfl

/-- The statement that comes next, and the timeout. -/
structure At (c : Call) (env : Environment) (n : Nat) (point : Point) (timeout : U8) : Prop where
  point : (callAfter c env n).point = point
  timeout : (callAfter c env n).timeout = timeout

theorem At.next (configured : StaysConfigured c env) {n : Nat} {point : Point} {timeout : U8}
    (h : At c env n point timeout) :
    At c env (n + 1) (nextWaiting timeout (env.udfnuml n) point)
      (nextTimeout timeout (env.udfnuml n) point) := by
  obtain ⟨usb, hnext⟩ := callAfter_succ c env n
  have husb : usb.usbConfiguration ≠ 0#8 := by
    have hafter := configured (n + 1)
    rwa [hnext, next_usbConfiguration] at hafter
  constructor
  · rw [hnext, next_point _ _ _ husb (env.unready n), h.point, h.timeout]
  · rw [hnext, next_timeout, h.point, h.timeout]

/-- A test that does not fire is followed by the next one. -/
theorem At.next_poll (configured : StaysConfigured c env) {n : Nat} {timeout : U8}
    (h : At c env n .testTimeout timeout) (hne : env.udfnuml n ≠ timeout) :
    At c env (n + 7) .testTimeout timeout := by
  have hgoes : At c env (n + 1) .saveSregAgain timeout := by
    have hnext := h.next configured
    rwa [nextWaiting, if_neg hne] at hnext
  have hselected : At c env (n + 4) .readReady timeout :=
    ((hgoes.next configured).next configured).next configured
  exact ((hselected.next configured).next configured).next configured

/-- The first test comes after eight statements. -/
theorem first_poll (configured : StaysConfigured c env) :
    At c env (pollAt 0) .testTimeout (env.udfnuml startAt + 50#8) := by
  have hbegun : At c env 0 .testConfiguration c.timeout := ⟨rfl, rfl⟩
  have hselected : At c env 4 .startTimeout c.timeout :=
    (((hbegun.next configured).next configured).next configured).next configured
  exact (((hselected.next configured).next configured).next configured).next configured

/-- A call that has returned does not go on. -/
theorem At.returned (configured : StaysConfigured c env) {n : Nat} {result : Int} {timeout : U8}
    (h : At c env n (.returned result) timeout) (m : Nat) :
    At c env (n + m) (.returned result) timeout := by
  induction m with
  | zero => exact h
  | succ m ih => exact ih.next configured

/-- At this test the frame number equals the timeout. -/
def Expires (env : Environment) : Nat → Prop := Fires 8 (env.frame startAt) 50 env.elapsed

theorem udfnuml_eq_timeout_iff (env : Environment) (k : Nat) :
    env.udfnuml (pollAt k) = env.udfnuml startAt + 50#8 ↔ Expires env k := by
  rw [udfnuml, frame_pollAt]
  rfl

/-- As long as no test finds the timeout, there is a next one. -/
theorem polls_on (configured : StaysConfigured c env) (k : Nat) (h : ∀ j < k, ¬Expires env j) :
    At c env (pollAt k) .testTimeout (env.udfnuml startAt + 50#8) := by
  induction k with
  | zero => exact first_poll configured
  | succ k ih =>
      have hpoll := ih fun j hj => h j (Nat.lt_succ_of_lt hj)
      have hne : env.udfnuml (pollAt k) ≠ env.udfnuml startAt + 50#8 := by
        rw [ne_eq, udfnuml_eq_timeout_iff]
        exact h k (Nat.lt_succ_self k)
      exact hpoll.next_poll configured hne

/-- The first test that finds the timeout ends the call. -/
theorem returned_of_first (configured : StaysConfigured c env) {k : Nat}
    (hfirst : First (Expires env) k) :
    At c env (pollAt k + 1) (.returned (-1)) (env.udfnuml startAt + 50#8) := by
  have hnext := (polls_on configured k hfirst.before).next configured
  rwa [nextWaiting, if_pos ((udfnuml_eq_timeout_iff env k).mpr hfirst.holds)] at hnext

/-- The call returns -1 at a test exactly when this is the first one that finds
the timeout. -/
theorem returnsAt_iff (configured : StaysConfigured c env) (k : Nat) :
    ReturnsAt c env k ↔ First (Expires env) k := by
  constructor
  · rintro ⟨hpoll, hreturned⟩
    have hbefore : ∀ j < k, ¬Expires env j := by
      intro j hj hexpires
      obtain ⟨i, hij, hfirst⟩ := exists_first hexpires
      have hreach : pollAt k = pollAt i + 1 + (7 * (k - i) - 1) := by
        unfold pollAt
        omega
      have hover := (returned_of_first configured hfirst).returned configured (7 * (k - i) - 1)
      rw [← hreach] at hover
      exact Point.noConfusion (hpoll.symm.trans hover.point)
    refine ⟨?_, hbefore⟩
    by_contra hgoes
    have hnext := ((polls_on configured k hbefore).next configured).point
    rw [nextWaiting, if_neg ((udfnuml_eq_timeout_iff env k).not.mpr hgoes), hreturned] at hnext
    exact Point.noConfusion hnext
  · intro hfirst
    exact ⟨(polls_on configured k hfirst.before).point,
      (returned_of_first configured hfirst).point⟩

end Waiting

/-- A call that stays configured and never finds its endpoint ready gives up on
time exactly when the first test at which 50 to 255 frames have passed is one
at which exactly 50 have. -/
theorem givesUpOnTime_iff {c : Call} {env : Environment} (configured : StaysConfigured c env) :
    GivesUpOnTime c env ↔ ∀ k, First (Overdue env) k → env.elapsed k = 50 := by
  apply forall_congr'
  intro k
  apply imp_congr_right
  intro hfirst
  rw [returnsAt_iff configured]
  exact hfirst.fires_iff env.elapsed_monotone

/-- Without interrupts a configured device stays configured. -/
theorem staysConfigured_of_quiet {c : Call} {env : Environment}
    (quiet : ∀ n, env.interrupts n = []) (configured : c.usb.usbConfiguration ≠ 0#8) :
    StaysConfigured c env := by
  intro n
  induction n with
  | zero => exact configured
  | succ n ih =>
      have hnext : callAfter c env (n + 1) =
          ((callAfter c env n).next (env.ueintx n) (env.udfnuml n)).1 := by
        rw [callAfter, Environment.inputs, Environment.window, quiet, Machine.state_append]
        rfl
      rw [hnext, next_usbConfiguration]
      exact ih

/-- A frame number that has changed by the first test of the timeout and once
more by the second one. -/
def stepped (start first second n : Nat) : Nat :=
  if n < pollAt 0 then start else if n < pollAt 1 then first else second

theorem stepped_monotone {start first second : Nat} (hfirst : start ≤ first)
    (hsecond : first ≤ second) : Monotone (stepped start first second) := by
  intro m n hmn
  unfold stepped
  split_ifs <;> omega

theorem stepped_pollAt_succ (start first second k : Nat) :
    stepped start first second (pollAt (k + 1)) = second := by
  have hsettled : ¬pollAt (k + 1) < pollAt 0 ∧ ¬pollAt (k + 1) < pollAt 1 := by
    unfold pollAt
    omega
  rw [stepped, if_neg hsettled.1, if_neg hsettled.2]

/-- No interrupts, and such a frame number. -/
def Environment.stepping (start first second : Nat) (hfirst : start ≤ first)
    (hsecond : first ≤ second) : Environment where
  frame := stepped start first second
  monotone := stepped_monotone hfirst hsecond
  interrupts _ := []
  ueintx _ := 0#8
  unready _ := rfl

/-- The frame number runs over from 255, and the second test comes in time. -/
def metTimeout : Environment := .stepping 250 299 300 (by omega) (by omega)

theorem givesUpOnTime_iff_metTimeout : GivesUpOnTime enabledCall metTimeout := by
  have configured : StaysConfigured enabledCall metTimeout :=
    staysConfigured_of_quiet (fun _ => rfl) (by decide)
  apply (givesUpOnTime_iff configured).mpr
  intro k hfirst
  cases k with
  | zero => exact absurd hfirst.holds.1 (by decide)
  | succ k =>
      calc metTimeout.elapsed (k + 1)
        _ = stepped 250 299 300 (pollAt (k + 1)) - stepped 250 299 300 startAt := rfl
        _ = 300 - stepped 250 299 300 startAt := by rw [stepped_pollAt_succ]
        _ = 50 := by decide

/-- 49 frames have passed at the first test and 51 at the second one. -/
def skippedTimeout : Environment := .stepping 0 49 51 (by omega) (by omega)

/-- The frame of the timeout is skipped: the second test is overdue, and the
call goes on waiting. -/
theorem skippedTimeout_waits :
    StaysConfigured enabledCall skippedTimeout ∧ ¬GivesUpOnTime enabledCall skippedTimeout := by
  constructor
  · exact staysConfigured_of_quiet (fun _ => rfl) (by decide)
  · intro hgives
    have hfirst : First (Overdue skippedTimeout) 1 := by
      refine ⟨⟨by decide, by decide⟩, ?_⟩
      intro j hj hdue
      obtain rfl : j = 0 := by omega
      exact absurd hdue.1 (by decide)
    exact absurd (hgives 1 hfirst).2 (by decide +kernel)

end DiyPs3Controller.SendTimeout
