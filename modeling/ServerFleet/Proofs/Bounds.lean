import ServerFleet.Dispatch

/-!
# Settings within their bounds

Settings that were built have every number within its bound (`Settings.InBounds`,
`Settings.inBounds_of_construct`), wherever it was taken from: a default is within its
bound, and so is all that a checked reader gives (`Settings.check_of_ok`). For that the
checks of the settings are looked at one by one (`Settings.check_field_of_checkValues`).

The bounds are comparisons of doubles, and what is not a number compares with nothing. So
a double that passed one is a number, though it may be infinite
(`Settings.InBounds.isNaN_eq_false`).
-/

namespace ServerFleet

/-! ## Doubles that compare -/

namespace Number

open Float.Model

theorem unpacked_isNaN_of_compare {x y : UnpackedFloat} {o : Ordering}
    (h : x.compare y = some o) : y.isNaN = false := by
  cases y with
  | notANumber => cases x <;> cases h
  | _ => rfl

theorem isNaN_of_lt {x y : Float} (h : x < y) : y.isNaN = false := by
  have hlt : x.toModel.unpack.lt y.toModel.unpack = true := of_decide_eq_true h
  exact unpacked_isNaN_of_compare (eq_of_beq hlt)

theorem isNaN_of_le {x y : Float} (h : x ≤ y) : y.isNaN = false := by
  have hle : x.toModel.unpack.le y.toModel.unpack = true := of_decide_eq_true h
  cases ho : x.toModel.unpack.compare y.toModel.unpack with
  | none => rw [UnpackedFloat.le, ho] at hle; cases hle
  | some o => exact unpacked_isNaN_of_compare ho

end Number

/-! ## Each setting by itself -/

namespace Setting

/-- What the values of a setting are once they are checked. -/
def Carrier : Setting → Type
  | confDir => Path
  | serviceScript | adminCommand | launcher | instanceVariable => String
  | workersPerHost | sshPort => Nat
  | sshUser | sshKey => Option String
  | commandTimeout => Option Float
  | connectTimeout | adminTimeout | adminGrace | workerGrace => Float

/-- What a setting is if it is not given. -/
def default : (s : Setting) → s.Carrier
  | confDir => Path.parse "conf"
  | serviceScript => "fleet-service"
  | adminCommand => "fleet-admin"
  | launcher => ""
  | workersPerHost => (1 : Nat)
  | instanceVariable => "FC_SERVICE_INSTANCE"
  | sshUser | sshKey => none
  | sshPort => (22 : Nat)
  | connectTimeout => (2.0 : Float)
  | commandTimeout => none
  | adminTimeout => (30.0 : Float)
  | adminGrace => (5.0 : Float)
  | workerGrace => (10.0 : Float)

/-- Reads and checks a value of a setting. -/
def read : (s : Setting) → Json → Except Settings.ValueFault s.Carrier
  | confDir => Settings.readPath
  | serviceScript | adminCommand | launcher | instanceVariable => Settings.readText
  | workersPerHost => fun j => Settings.readInteger j >>= Settings.atLeast 1
  | sshPort => fun j => Settings.readInteger j >>= Settings.positive
  | sshUser | sshKey => Settings.readOptional Settings.readText
  | connectTimeout | adminTimeout => fun j => Settings.readNumber j >>= Settings.timeLimit
  | commandTimeout =>
    Settings.readOptional fun j => Settings.readNumber j >>= Settings.timeLimit
  | adminGrace | workerGrace => fun j => Settings.readNumber j >>= Settings.duration

end Setting

namespace Settings

/-- The field of a setting. -/
def field (x : Settings) : (s : Setting) → s.Carrier
  | .confDir => x.confDir
  | .serviceScript => x.serviceScript
  | .adminCommand => x.adminCommand
  | .launcher => x.launcher
  | .workersPerHost => x.workersPerHost
  | .instanceVariable => x.instanceVariable
  | .sshUser => x.sshUser
  | .sshPort => x.sshPort
  | .sshKey => x.sshKey
  | .connectTimeout => x.connectTimeout
  | .commandTimeout => x.commandTimeout
  | .adminTimeout => x.adminTimeout
  | .adminGrace => x.adminGrace
  | .workerGrace => x.workerGrace

/-- The checked value of a setting is its field. -/
theorem check_field_of_checkValues {values : Entries} {x : Settings}
    (h : checkValues values = .ok x) (s : Setting) :
    check values s s.default s.read = .ok (x.field s) := by
  simp only [checkValues, Checked.apply_eq_ok, Except.ok.injEq] at h
  -- The values are checked one after the other; the last is met first.
  obtain ⟨_, _, h, hworkerGrace, rfl⟩ := h
  obtain ⟨_, _, h, hadminGrace, rfl⟩ := h
  obtain ⟨_, _, h, hadminTimeout, rfl⟩ := h
  obtain ⟨_, _, h, hcommandTimeout, rfl⟩ := h
  obtain ⟨_, _, h, hconnectTimeout, rfl⟩ := h
  obtain ⟨_, _, h, hsshKey, rfl⟩ := h
  obtain ⟨_, _, h, hsshPort, rfl⟩ := h
  obtain ⟨_, _, h, hsshUser, rfl⟩ := h
  obtain ⟨_, _, h, hinstanceVariable, rfl⟩ := h
  obtain ⟨_, _, h, hworkersPerHost, rfl⟩ := h
  obtain ⟨_, _, h, hlauncher, rfl⟩ := h
  obtain ⟨_, _, h, hadminCommand, rfl⟩ := h
  obtain ⟨_, _, ⟨_, _, rfl, hconfDir, rfl⟩, hserviceScript, rfl⟩ := h
  cases s <;> assumption

/-! ## Readers that check -/

/-- What holds of the default and of all that can be read holds of a checked value. -/
theorem check_of_ok {α : Type} {values : Entries} {setting : Setting} {default x : α}
    {read : Json → Except ValueFault α} {P : α → Prop} (hdefault : P default)
    (hread : ∀ j y, read j = .ok y → P y) (h : check values setting default read = .ok x) :
    P x := by
  unfold check at h
  split at h
  · obtain rfl := Except.ok.inj h
    exact hdefault
  · split at h
    · obtain rfl := Except.ok.inj h
      exact hread _ _ ‹_›
    · cases h

/-- A reader that goes on to a check gives what the check lets through. -/
theorem of_checked {α β : Type} {read : Json → Except ValueFault α}
    {bound : α → Except ValueFault β} {P : β → Prop} (hbound : ∀ x y, bound x = .ok y → P y)
    (j : Json) (y : β) (h : (read j >>= bound) = .ok y) : P y := by
  cases hj : read j with
  | error e => rw [hj] at h; cases h
  | ok x => rw [hj] at h; exact hbound x y h

theorem le_of_atLeast {least : Nat} (i : Int) (n : Nat) (h : atLeast least i = .ok n) :
    least ≤ n := by
  unfold atLeast at h
  split at h
  · obtain rfl := Except.ok.inj h
    omega
  · cases h

theorem pos_of_positive (i : Int) (n : Nat) (h : positive i = .ok n) : 0 < n := by
  unfold positive at h
  split at h
  · obtain rfl := Except.ok.inj h
    omega
  · cases h

theorem nonneg_of_duration (x y : Float) (h : duration x = .ok y) : 0.0 ≤ y := by
  unfold duration at h
  split at h
  · obtain rfl := Except.ok.inj h
    assumption
  · cases h

theorem pos_of_timeLimit (x y : Float) (h : timeLimit x = .ok y) : 0.0 < y := by
  unfold timeLimit at h
  split at h
  · obtain rfl := Except.ok.inj h
    assumption
  · cases h

/-- A reader that allows null gives nothing or what it reads. -/
theorem of_readOptional {α : Type} {read : Json → Except ValueFault α} {P : α → Prop}
    (hread : ∀ j y, read j = .ok y → P y) (j : Json) (y : Option α)
    (h : readOptional read j = .ok y) : ∀ x, y = some x → P x := by
  rintro x rfl
  unfold readOptional at h
  split at h
  · cases h
  · cases hj : read j with
    | error e => rw [hj] at h; cases h
    | ok x' =>
      rw [hj] at h
      obtain rfl := Option.some.inj (Except.ok.inj h)
      exact hread j x' hj

/-! ## Settings that were built -/

/-- The numbers among the settings are within their bounds. -/
structure InBounds (s : Settings) : Prop where
  workersPerHost : 1 ≤ s.workersPerHost
  sshPort : 0 < s.sshPort
  connectTimeout : 0.0 < s.connectTimeout
  commandTimeout : ∀ limit, s.commandTimeout = some limit → 0.0 < limit
  adminTimeout : 0.0 < s.adminTimeout
  adminGrace : 0.0 ≤ s.adminGrace
  workerGrace : 0.0 ≤ s.workerGrace

/-- The times that settings give. -/
def times (s : Settings) : List Float :=
  [s.connectTimeout, s.adminTimeout, s.adminGrace, s.workerGrace] ++ s.commandTimeout.toList

theorem InBounds.isNaN_eq_false {s : Settings} (h : s.InBounds) :
    ∀ x ∈ s.times, x.isNaN = false := by
  simp only [times, List.forall_mem_append, List.forall_mem_cons, Option.mem_toList]
  refine ⟨⟨Number.isNaN_of_lt h.connectTimeout, Number.isNaN_of_lt h.adminTimeout,
    Number.isNaN_of_le h.adminGrace, Number.isNaN_of_le h.workerGrace, ?_⟩, fun limit hl => ?_⟩
  · exact fun _ hx => (nomatch hx)
  · exact Number.isNaN_of_lt (h.commandTimeout limit hl)

/-- Values that pass their checks give settings within their bounds. -/
theorem inBounds_of_checkValues {values : Entries} {s : Settings}
    (h : checkValues values = .ok s) : s.InBounds := by
  have hfield := check_field_of_checkValues h
  have hnone : ∀ limit : Float, none = some limit → 0.0 < limit := fun _ h => (nomatch h)
  exact {
    workersPerHost :=
      check_of_ok (Nat.le_refl 1) (of_checked le_of_atLeast) (hfield .workersPerHost)
    sshPort := check_of_ok (Nat.succ_pos _) (of_checked pos_of_positive) (hfield .sshPort)
    connectTimeout := check_of_ok (by rw [Setting.default]; decide) (of_checked pos_of_timeLimit)
      (hfield .connectTimeout)
    commandTimeout :=
      check_of_ok hnone (of_readOptional (of_checked pos_of_timeLimit)) (hfield .commandTimeout)
    adminTimeout := check_of_ok (by rw [Setting.default]; decide) (of_checked pos_of_timeLimit)
      (hfield .adminTimeout)
    adminGrace := check_of_ok (by rw [Setting.default]; decide) (of_checked nonneg_of_duration)
      (hfield .adminGrace)
    workerGrace := check_of_ok (by rw [Setting.default]; decide) (of_checked nonneg_of_duration)
      (hfield .workerGrace) }

/-- Settings that can be built are made of values that pass their checks. -/
theorem checkValues_of_construct {values : Entries} {s : Settings}
    (h : construct values = .ok s) : checkValues values = .ok s := by
  unfold construct at h
  split at h
  · cases h
  · split at h
    · cases h
    · split at h
      · cases h
      · obtain rfl := Except.ok.inj h
        assumption

/-- Settings that were built have every number within its bound. -/
theorem inBounds_of_construct {values : Entries} {s : Settings} (h : construct values = .ok s) :
    s.InBounds :=
  inBounds_of_checkValues (checkValues_of_construct h)

example : fromEnvironment [("FC_ADMIN_GRACE_SECONDS", "nan")] [] =
    .error (.invalid [⟨.adminGrace, .below 0⟩]) := rfl

/-- The pool has a size. -/
theorem InBounds.poolSize_eq {s : Settings} (h : s.InBounds) :
    Dispatch.poolSize s none = .ok (Dispatch.batchSize * s.workersPerHost : Nat) := by
  have hpos : 1 ≤ s.workersPerHost := h.workersPerHost
  have hnot : ¬ ((Dispatch.batchSize * s.workersPerHost : Nat) : Int) ≤ 0 := by
    simp only [Dispatch.batchSize]
    omega
  simp only [Dispatch.poolSize, hnot, if_false]

end Settings

end ServerFleet
