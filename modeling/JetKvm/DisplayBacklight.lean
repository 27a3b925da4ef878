import JetKvm.LabelledRuns
import Mathlib.Algebra.Group.Nat.Defs

/-!
# The backlight of the display

Translation of the backlight in `display.go` and of `rpcSetBacklightSettings`.
Two tickers dim the display and switch it off, each once after it was started or
reset, in whatever order their delays bring about.
-/

namespace JetKvm

namespace Backlight

open LabelledRuns

structure Config where
  displayMaxBrightness : Int
  displayDimAfterSec : Int
  displayOffAfterSec : Int
  deriving DecidableEq, Repr

inductive Ticker where
  | running
  | stopped
  deriving DecidableEq, Repr

/-- `booted` is what the brightness file holds before anything is written. -/
structure Display where
  config : Config
  booted : Nat
  written : Option Int := none
  backlightState : Nat := 0
  dimTicker : Option Ticker := none
  offTicker : Option Ticker := none
  deriving DecidableEq, Repr

/-- `time.Duration(seconds) * time.Second`, which wraps -/
def duration (seconds : Int) : Int :=
  (seconds * 1000000000).bmod (2 ^ 64)

/-- `Stop`, which does not close the channel -/
def stop (ticker : Option Ticker) : Option Ticker :=
  ticker.map fun _ => .stopped

/-- The old ticker is stopped, and a new one panics unless its delay is
positive. -/
def newTicker (seconds : Int) (ticker : Option Ticker) : Option (Option Ticker) :=
  if seconds = 0 then some (stop ticker)
  else if 0 < duration seconds then some (some .running)
  else none

/-- `Reset`, which panics like `NewTicker` -/
def reset (seconds : Int) (ticker : Option Ticker) : Option (Option Ticker) :=
  if seconds ≠ 0 ∧ ticker.isSome then
    if 0 < duration seconds then some (some .running) else none
  else some ticker

namespace Display

def brightness (display : Display) : Int :=
  display.written.getD display.booted

/-- The file is there, and writing it succeeds. -/
def setDisplayBrightness (brightness : Int) (display : Display) :
    Except String Display :=
  if brightness > 100 ∨ brightness < 0 then
    .error "brightness value out of bounds, must be between 0 and 100"
  else .ok { display with written := some brightness }

/-- The callers of `setDisplayBrightness` log its error and go on. -/
def tryBrightness (brightness : Int) (display : Display) : Display :=
  match display.setDisplayBrightness brightness with
  | .ok next => next
  | .error _ => display

def tickDisplayDim (display : Display) : Display :=
  let display :=
    display.tryBrightness (display.config.displayMaxBrightness.tdiv 2)
  { display with
    dimTicker := stop display.dimTicker
    backlightState := 1 }

def tickDisplayOff (display : Display) : Display :=
  let display := display.tryBrightness 0
  { display with
    offTicker := stop display.offTicker
    backlightState := 2 }

def wakeDisplay (force : Bool) (display : Display) : Option Display :=
  if display.backlightState = 0 ∧ force = false then some display
  else if display.config.displayMaxBrightness = 0 then some display
  else do
    let display := display.tryBrightness display.config.displayMaxBrightness
    let dimTicker ← reset display.config.displayDimAfterSec display.dimTicker
    let offTicker ← reset display.config.displayOffAfterSec display.offTicker
    some { display with
      dimTicker := dimTicker
      offTicker := offTicker
      backlightState := 0 }

def startBacklightTickers (display : Display) : Option Display :=
  if display.config.displayMaxBrightness = 0 then some (display.tryBrightness 0)
  else do
    let dimTicker ← newTicker display.config.displayDimAfterSec display.dimTicker
    let offTicker ← newTicker display.config.displayOffAfterSec display.offTicker
    some { display with dimTicker := dimTicker, offTicker := offTicker }

end Display

structure BacklightSettings where
  maxBrightness : Int
  dimAfter : Int
  offAfter : Int
  deriving DecidableEq, Repr

/-- `none` when it panics, which the caller recovers from. -/
def rpcSetBacklightSettings (params : BacklightSettings)
    (saveError : Option String) (display : Display) :
    Option (Display × Option String) :=
  if params.maxBrightness > 255 ∨ params.maxBrightness < 0 then
    some (display, some "maxBrightness must be between 0 and 255")
  else if params.dimAfter < 0 then
    some (display, some "dimAfter must be a positive integer")
  else if params.offAfter < 0 then
    some (display, some "offAfter must be a positive integer")
  else
    let display :=
      { display with
        config := ⟨params.maxBrightness, params.dimAfter, params.offAfter⟩ }
    match saveError with
    | some message => some (display, some ("failed to save config: " ++ message))
    | none => do
        let display ← display.startBacklightTickers
        let display ← display.wakeDisplay true
        some (display, none)

/-- The settings are changed, the display is woken, or a ticker fires. -/
inductive Label where
  | setBacklightSettings (params : BacklightSettings) (saveError : Option String)
  | wakeDisplay (force : Bool)
  | tickDisplayDim
  | tickDisplayOff
  deriving DecidableEq, Repr

/-- Only the calls that return nil are followed. -/
def step (display : Display) : Label → Option Display
  | .setBacklightSettings params saveError =>
      match rpcSetBacklightSettings params saveError display with
      | some (next, none) => some next
      | _ => none
  | .wakeDisplay force => display.wakeDisplay force
  | .tickDisplayDim =>
      if display.dimTicker = some .running then some display.tickDisplayDim
      else none
  | .tickDisplayOff =>
      if display.offTicker = some .running then some display.tickDisplayOff
      else none

/-- `initDisplay` starts the tickers and writes no brightness but zero.  The
program ends if it panics. -/
def boot (config : Config) (booted : Nat) : Option Display :=
  Display.startBacklightTickers { config := config, booted := booted }

namespace Display

/-- The maximum was written last and the state is normal; of a maximum of zero
only that it was written. -/
def ShowsMaximum (display : Display) : Prop :=
  (0 < display.config.displayMaxBrightness →
      display.written = some display.config.displayMaxBrightness ∧
        display.backlightState = 0) ∧
    (display.config.displayMaxBrightness = 0 → display.written = some 0)

/-- A ticker makes the display no brighter, and a change of the settings or a
wake from another state than normal shows the maximum. -/
def Behaves (display : Display) (label : Label) : Prop :=
  ∀ next, step display label = some next →
    match label with
    | .setBacklightSettings _ _ => next.ShowsMaximum
    | .wakeDisplay _ => display.backlightState ≠ 0 → next.ShowsMaximum
    | .tickDisplayDim | .tickDisplayOff => next.brightness ≤ display.brightness

/-- Half of the maximum would light a display of the brightness. -/
def Lights (display : Display) (brightness : Int) : Prop :=
  brightness < display.config.displayMaxBrightness.tdiv 2 ∧
    display.config.displayMaxBrightness.tdiv 2 ≤ 100

/-- The maximum can be written, and the dim ticker does not come after the off
ticker, nor before anything was written on a display that came up darker. -/
def Fits (display : Display) : Label → Prop
  | .setBacklightSettings params _ => params.maxBrightness ≤ 100
  | .wakeDisplay _ =>
      display.backlightState ≠ 0 → display.config.displayMaxBrightness ≤ 100
  | .tickDisplayDim =>
      (display.backlightState = 2 → ¬ display.Lights 0) ∧
        (display.written = none → ¬ display.Lights display.booted)
  | .tickDisplayOff => True

end Display

/-! ### Writing a brightness -/

section Writing

variable {display : Display} {brightness : Int}

theorem tryBrightness_of_bounds (lower : 0 ≤ brightness)
    (upper : brightness ≤ 100) :
    display.tryBrightness brightness =
      { display with written := some brightness } := by
  have within : ¬ (brightness > 100 ∨ brightness < 0) := by omega
  rw [Display.tryBrightness, Display.setDisplayBrightness, if_neg within]

theorem tryBrightness_of_out (out : brightness > 100 ∨ brightness < 0) :
    display.tryBrightness brightness = display := by
  rw [Display.tryBrightness, Display.setDisplayBrightness, if_pos out]

theorem tryBrightness_zero :
    display.tryBrightness 0 = { display with written := some 0 } :=
  tryBrightness_of_bounds (by decide) (by decide)

/-- Only the brightness that was written changes, if it is within the bounds. -/
theorem tryBrightness_cases (brightness : Int) (display : Display) :
    0 ≤ brightness ∧ brightness ≤ 100 ∧
        display.tryBrightness brightness =
          { display with written := some brightness } ∨
      (brightness > 100 ∨ brightness < 0) ∧
        display.tryBrightness brightness = display := by
  by_cases out : brightness > 100 ∨ brightness < 0
  · exact .inr ⟨out, tryBrightness_of_out out⟩
  · have lower : 0 ≤ brightness := by omega
    have upper : brightness ≤ 100 := by omega
    exact .inl ⟨lower, upper, tryBrightness_of_bounds lower upper⟩

end Writing

/-! ### What a run keeps -/

/-- What was written is within the bounds, and zero where there is no maximum. -/
structure Sound (display : Display) : Prop where
  bounds : ∀ brightness, display.written = some brightness →
    0 ≤ brightness ∧ brightness ≤ 100
  zero : display.config.displayMaxBrightness = 0 → display.written = some 0

/-- Zero was written where the display is off.  Elsewhere the dim ticker lights
the display only before anything was written. -/
structure Lit (display : Display) : Prop extends Sound display where
  off : display.backlightState = 2 → display.written = some 0
  lit : display.backlightState ≠ 2 → display.written ≠ none →
    ¬ display.Lights display.brightness

section Operations

variable {display next : Display} {force : Bool}

theorem half_le_max (maximum : Int) : maximum.tdiv 2 ≤ max maximum 0 := by
  rcases Int.le_total 0 maximum with nonneg | nonpos
  · exact Int.le_trans (Int.tdiv_le_self 2 nonneg) (Int.le_max_left maximum 0)
  · have negated : 0 ≤ (-maximum).tdiv 2 :=
      Int.tdiv_nonneg (by omega) (by decide)
    rw [Int.neg_tdiv] at negated
    omega

theorem bounds_of_tryBrightness {value : Int}
    (bounds : ∀ brightness, display.written = some brightness →
      0 ≤ brightness ∧ brightness ≤ 100) :
    ∀ brightness, (display.tryBrightness value).written = some brightness →
      0 ≤ brightness ∧ brightness ≤ 100 := by
  intro brightness written
  rcases tryBrightness_cases value display with
    ⟨lower, upper, equal⟩ | ⟨-, equal⟩
  · rw [equal] at written
    obtain rfl := Option.some.inj written
    exact ⟨lower, upper⟩
  · rw [equal] at written
    exact bounds brightness written

@[simp]
theorem tryBrightness_config (value : Int) :
    (display.tryBrightness value).config = display.config := by
  rcases tryBrightness_cases value display with ⟨-, -, equal⟩ | ⟨-, equal⟩
  · rw [equal]
  · rw [equal]

@[simp]
theorem tryBrightness_booted (value : Int) :
    (display.tryBrightness value).booted = display.booted := by
  rcases tryBrightness_cases value display with ⟨-, -, equal⟩ | ⟨-, equal⟩
  · rw [equal]
  · rw [equal]

/-- The tickers are started without a change of the brightness, unless the
maximum is zero. -/
theorem startBacklightTickers_cases
    (started : display.startBacklightTickers = some next) :
    display.config.displayMaxBrightness = 0 ∧
        next = { display with written := some 0 } ∨
      display.config.displayMaxBrightness ≠ 0 ∧
        ∃ dimTicker offTicker, next =
          { display with dimTicker := dimTicker, offTicker := offTicker } := by
  by_cases dark : display.config.displayMaxBrightness = 0
  · rw [Display.startBacklightTickers, if_pos dark, tryBrightness_zero] at started
    exact .inl ⟨dark, (Option.some.inj started).symm⟩
  · rw [Display.startBacklightTickers, if_neg dark] at started
    simp only [Option.bind_eq_bind, Option.bind_eq_some_iff] at started
    obtain ⟨dimTicker, -, offTicker, -, equal⟩ := started
    exact .inr ⟨dark, dimTicker, offTicker, (Option.some.inj equal).symm⟩

/-- A wake that does something writes the maximum, unless it is zero. -/
theorem wakeDisplay_cases (woken : display.backlightState ≠ 0 ∨ force = true)
    (wakes : display.wakeDisplay force = some next) :
    display.config.displayMaxBrightness = 0 ∧ next = display ∨
      display.config.displayMaxBrightness ≠ 0 ∧
        ∃ dimTicker offTicker, next =
          { display.tryBrightness display.config.displayMaxBrightness with
            dimTicker := dimTicker
            offTicker := offTicker
            backlightState := 0 } := by
  have awake : ¬ (display.backlightState = 0 ∧ force = false) := by
    rintro ⟨normal, rfl⟩
    rcases woken with other | forced
    · exact other normal
    · cases forced
  by_cases dark : display.config.displayMaxBrightness = 0
  · rw [Display.wakeDisplay, if_neg awake, if_pos dark] at wakes
    exact .inl ⟨dark, (Option.some.inj wakes).symm⟩
  · rw [Display.wakeDisplay, if_neg awake, if_neg dark] at wakes
    simp only [Option.bind_eq_bind, Option.bind_eq_some_iff] at wakes
    obtain ⟨dimTicker, -, offTicker, -, equal⟩ := wakes
    exact .inr ⟨dark, dimTicker, offTicker, (Option.some.inj equal).symm⟩

theorem Sound.startBacklightTickers
    (started : display.startBacklightTickers = some next)
    (bounds : ∀ brightness, display.written = some brightness →
      0 ≤ brightness ∧ brightness ≤ 100) : Sound next := by
  rcases startBacklightTickers_cases started with
    ⟨-, rfl⟩ | ⟨lighted, dimTicker, offTicker, rfl⟩
  · refine ⟨?_, fun _ => rfl⟩
    rintro brightness ⟨rfl⟩
    exact ⟨by decide, by decide⟩
  · exact ⟨bounds, fun dark => absurd dark lighted⟩

theorem startBacklightTickers_config
    (started : display.startBacklightTickers = some next) :
    next.config = display.config := by
  rcases startBacklightTickers_cases started with
    ⟨-, rfl⟩ | ⟨-, dimTicker, offTicker, rfl⟩
  · rfl
  · rfl

/-- The maximum is shown after a wake exactly when it can be written. -/
theorem Sound.showsMaximum_iff (sound : Sound display)
    (woken : display.backlightState ≠ 0 ∨ force = true)
    (wakes : display.wakeDisplay force = some next) :
    next.ShowsMaximum ↔ display.config.displayMaxBrightness ≤ 100 := by
  rcases wakeDisplay_cases woken wakes with
    ⟨dark, rfl⟩ | ⟨lighted, dimTicker, offTicker, rfl⟩
  · refine iff_of_true ⟨fun positive => ?_, sound.zero⟩ (by omega)
    omega
  · simp only [Display.ShowsMaximum, tryBrightness_config, and_true]
    constructor
    · rintro ⟨shown, -⟩
      by_contra above
      have same := bounds_of_tryBrightness sound.bounds _ (shown (by omega))
      omega
    · intro upper
      refine ⟨fun positive => ?_, fun dark => absurd dark lighted⟩
      rw [tryBrightness_of_bounds (by omega) upper]

theorem Sound.lit_wakeDisplay (sound : Sound display)
    (woken : display.backlightState ≠ 0 ∨ force = true)
    (upper : display.config.displayMaxBrightness ≤ 100)
    (off : display.backlightState = 2 → display.written = some 0)
    (wakes : display.wakeDisplay force = some next) : Lit next := by
  rcases wakeDisplay_cases woken wakes with
    ⟨dark, rfl⟩ | ⟨lighted, dimTicker, offTicker, rfl⟩
  · refine ⟨sound, off, fun _ _ lights => ?_⟩
    have written := sound.zero dark
    simp [Display.Lights, Display.brightness, dark, written] at lights
  · refine ⟨⟨bounds_of_tryBrightness sound.bounds, ?_⟩, nofun, ?_⟩
    · intro dark
      rw [tryBrightness_config] at dark
      exact absurd dark lighted
    · rintro - written ⟨below, -⟩
      simp only [tryBrightness_config, Display.brightness,
        tryBrightness_booted] at written below
      have half := half_le_max display.config.displayMaxBrightness
      rcases tryBrightness_cases display.config.displayMaxBrightness display with
        ⟨lower, -, tried⟩ | ⟨out, tried⟩
      · simp only [tried, Option.getD_some] at below
        omega
      · obtain ⟨value, present⟩ := Option.ne_none_iff_exists'.mp written
        have within := bounds_of_tryBrightness sound.bounds _ present
        rw [present, Option.getD_some] at below
        omega

/-- A maximum that cannot be written is refused, which leaves a display in the
normal state as it was. -/
theorem Lit.wakeDisplay (lit : Lit display)
    (fits : display.backlightState ≠ 0 →
      display.config.displayMaxBrightness ≤ 100)
    (wakes : display.wakeDisplay force = some next) : Lit next := by
  by_cases woken : display.backlightState ≠ 0 ∨ force = true
  · by_cases upper : display.config.displayMaxBrightness ≤ 100
    · exact lit.toSound.lit_wakeDisplay woken upper lit.off wakes
    · have normal : display.backlightState = 0 := by
        by_contra other
        exact upper (fits other)
      rcases wakeDisplay_cases woken wakes with
        ⟨-, rfl⟩ | ⟨lighted, dimTicker, offTicker, rfl⟩
      · exact lit
      · rw [tryBrightness_of_out (.inl (by omega))]
        refine ⟨⟨lit.bounds, fun dark => absurd dark lighted⟩, nofun, ?_⟩
        exact fun _ => lit.lit (by omega)
  · have asleep : display.backlightState = 0 ∧ force = false := by
      simpa using woken
    rw [Display.wakeDisplay, if_pos asleep] at wakes
    obtain rfl := Option.some.inj wakes
    exact lit

theorem Sound.brightness_nonneg (sound : Sound display) :
    0 ≤ display.brightness := by
  cases written : display.written with
  | none => simp [Display.brightness, written]
  | some value =>
      rw [Display.brightness, written, Option.getD_some]
      exact (sound.bounds value written).1

/-- The dim ticker makes the display brighter exactly where half of the maximum
lights it. -/
theorem Sound.tickDisplayDim_le_iff (sound : Sound display) :
    display.tickDisplayDim.brightness ≤ display.brightness ↔
      ¬ display.Lights display.brightness := by
  have nonneg := sound.brightness_nonneg
  have after : display.tickDisplayDim.brightness =
      (display.tryBrightness
        (display.config.displayMaxBrightness.tdiv 2)).brightness := rfl
  rcases tryBrightness_cases (display.config.displayMaxBrightness.tdiv 2)
    display with ⟨lower, upper, equal⟩ | ⟨out, equal⟩
  · rw [after, equal]
    simp only [Display.Lights, Display.brightness, Option.getD_some] at nonneg ⊢
    omega
  · rw [after, equal]
    refine iff_of_true (Int.le_refl _) ?_
    rintro ⟨below, within⟩
    omega

/-- Where the display is off its brightness is zero, and before anything was
written it is the one it came up with. -/
theorem Lit.not_lights_iff (lit : Lit display) :
    ¬ display.Lights display.brightness ↔
      (display.backlightState = 2 → ¬ display.Lights 0) ∧
        (display.written = none → ¬ display.Lights display.booted) := by
  constructor
  · intro dims
    constructor
    · intro isOff
      simpa [Display.brightness, lit.off isOff] using dims
    · intro unwritten
      simpa [Display.brightness, unwritten] using dims
  · rintro ⟨whenOff, whenUnwritten⟩
    by_cases isOff : display.backlightState = 2
    · simpa [Display.brightness, lit.off isOff] using whenOff isOff
    · by_cases unwritten : display.written = none
      · simpa [Display.brightness, unwritten] using whenUnwritten unwritten
      · exact lit.lit isOff unwritten

theorem Lit.tickDisplayDim (lit : Lit display)
    (dims : ¬ display.Lights display.brightness) : Lit display.tickDisplayDim := by
  refine ⟨⟨bounds_of_tryBrightness lit.bounds, ?_⟩, nofun, ?_⟩
  · intro dark
    simp only [Display.tickDisplayDim, tryBrightness_config] at dark ⊢
    rw [dark, Int.zero_tdiv, tryBrightness_zero]
  · rintro - -
    simp only [Display.tickDisplayDim, Display.Lights, tryBrightness_config,
      Display.brightness, tryBrightness_booted]
    rcases tryBrightness_cases (display.config.displayMaxBrightness.tdiv 2)
      display with ⟨-, -, equal⟩ | ⟨-, equal⟩
    · rw [equal, Option.getD_some]
      omega
    · rw [equal]
      exact dims

theorem lit_tickDisplayOff (display : Display) : Lit display.tickDisplayOff := by
  rw [Display.tickDisplayOff, tryBrightness_zero]
  refine ⟨⟨?_, fun _ => rfl⟩, fun _ => rfl, fun isOn => absurd rfl isOn⟩
  rintro brightness ⟨rfl⟩
  exact ⟨by decide, by decide⟩

end Operations

section Steps

variable {display next : Display} {label : Label}

theorem Lit.boot {config : Config} {booted : Nat}
    (boots : boot config booted = some display) : Lit display := by
  refine ⟨Sound.startBacklightTickers boots ?_, ?_, ?_⟩
  · rintro brightness ⟨⟩
  · rcases startBacklightTickers_cases boots with
      ⟨-, rfl⟩ | ⟨-, dimTicker, offTicker, rfl⟩
    · nofun
    · nofun
  · rcases startBacklightTickers_cases boots with
      ⟨dark, rfl⟩ | ⟨-, dimTicker, offTicker, rfl⟩
    · have none : config.displayMaxBrightness = 0 := dark
      simp [Display.Lights, Display.brightness, none]
    · exact fun _ unwritten => absurd rfl unwritten

/-- What a change of the settings leaves -/
theorem setBacklightSettings_eq {params : BacklightSettings}
    {saveError : Option String}
    (taken : step display (.setBacklightSettings params saveError) = some next) :
    ∃ started, Display.startBacklightTickers
        { display with
          config := ⟨params.maxBrightness, params.dimAfter, params.offAfter⟩ } =
          some started ∧
      started.wakeDisplay true = some next := by
  simp only [step, rpcSetBacklightSettings] at taken
  by_cases outOfRange : params.maxBrightness > 255 ∨ params.maxBrightness < 0
  · rw [if_pos outOfRange] at taken
    cases taken
  rw [if_neg outOfRange] at taken
  by_cases dimBefore : params.dimAfter < 0
  · rw [if_pos dimBefore] at taken
    cases taken
  rw [if_neg dimBefore] at taken
  by_cases offBefore : params.offAfter < 0
  · rw [if_pos offBefore] at taken
    cases taken
  rw [if_neg offBefore] at taken
  cases saveError with
  | some message => cases taken
  | none =>
      simp only [Option.bind_eq_bind] at taken
      generalize tickers : Display.startBacklightTickers _ = outcome at taken ⊢
      cases outcome with
      | none => cases taken
      | some started =>
          refine ⟨started, rfl, ?_⟩
          rw [Option.bind_some] at taken
          cases wakes : started.wakeDisplay true with
          | none =>
              rw [wakes] at taken
              cases taken
          | some woken =>
              rw [wakes] at taken
              exact taken

/-- A step of a lit display shows what it should exactly when it fits. -/
theorem Lit.behaves_iff (lit : Lit display)
    (taken : step display label = some next) :
    display.Behaves label ↔ display.Fits label := by
  cases label with
  | setBacklightSettings params saveError =>
      change (∀ other,
        Backlight.step display (.setBacklightSettings params saveError) =
          some other → other.ShowsMaximum) ↔ _
      rw [forall_next_iff taken]
      obtain ⟨started, starts, wakes⟩ := setBacklightSettings_eq taken
      have sound := Sound.startBacklightTickers starts lit.bounds
      rw [sound.showsMaximum_iff (.inr rfl) wakes,
        startBacklightTickers_config starts]
      exact Iff.rfl
  | wakeDisplay force =>
      change (∀ other, Backlight.step display (.wakeDisplay force) = some other →
        display.backlightState ≠ 0 → other.ShowsMaximum) ↔ _
      rw [forall_next_iff taken]
      exact forall_congr' fun woken =>
        lit.toSound.showsMaximum_iff (.inl woken) taken
  | tickDisplayDim =>
      change (∀ other, Backlight.step display .tickDisplayDim = some other →
        other.brightness ≤ display.brightness) ↔ _
      rw [forall_next_iff taken]
      obtain ⟨-, fired⟩ := Option.ite_none_right_eq_some.mp taken
      obtain rfl := Option.some.inj fired
      exact lit.toSound.tickDisplayDim_le_iff.trans lit.not_lights_iff
  | tickDisplayOff =>
      change (∀ other, Backlight.step display .tickDisplayOff = some other →
        other.brightness ≤ display.brightness) ↔ _
      rw [forall_next_iff taken]
      obtain ⟨-, fired⟩ := Option.ite_none_right_eq_some.mp taken
      obtain rfl := Option.some.inj fired
      refine iff_of_true ?_ trivial
      rw [Display.tickDisplayOff, tryBrightness_zero]
      exact lit.toSound.brightness_nonneg

theorem Lit.step (lit : Lit display) (fits : display.Fits label)
    (taken : step display label = some next) : Lit next := by
  cases label with
  | setBacklightSettings params saveError =>
      obtain ⟨started, starts, wakes⟩ := setBacklightSettings_eq taken
      have sound := Sound.startBacklightTickers starts lit.bounds
      apply sound.lit_wakeDisplay (.inr rfl) ?_ ?_ wakes
      · rw [startBacklightTickers_config starts]
        exact fits
      · rcases startBacklightTickers_cases starts with
          ⟨-, rfl⟩ | ⟨-, dimTicker, offTicker, rfl⟩
        · exact fun _ => rfl
        · exact lit.off
  | wakeDisplay force => exact lit.wakeDisplay fits taken
  | tickDisplayDim =>
      obtain ⟨-, fired⟩ := Option.ite_none_right_eq_some.mp taken
      obtain rfl := Option.some.inj fired
      exact lit.tickDisplayDim (lit.not_lights_iff.mpr fits)
  | tickDisplayOff =>
      obtain ⟨-, fired⟩ := Option.ite_none_right_eq_some.mp taken
      obtain rfl := Option.some.inj fired
      exact lit_tickDisplayOff display

end Steps

/-- Along a run no ticker makes the display brighter, and the maximum is shown
after every change of the settings and every wake of a dimmed display, exactly
when every step fits. -/
theorem behaves_iff_fits {config : Config} {booted : Nat} {display : Display}
    (boots : boot config booted = some display) (labels : List Label) :
    AllSteps step Display.Behaves display labels ↔
      AllSteps step Display.Fits display labels := by
  apply allSteps_congr
  · intro display next label lit behaves taken
    exact Lit.step lit ((lit.behaves_iff taken).mp behaves) taken
  · intro display next label lit taken
    exact lit.behaves_iff taken
  · exact Lit.boot boots

theorem dimmed_behaves_iff_fits :
    boot ⟨64, 120, 1800⟩ 64 = some
        ⟨⟨64, 120, 1800⟩, 64, none, 0, some .running, some .running⟩ ∧
      (AllSteps step Display.Behaves
          ⟨⟨64, 120, 1800⟩, 64, none, 0, some .running, some .running⟩
          [.tickDisplayDim, .wakeDisplay false] ↔
        AllSteps step Display.Fits
          ⟨⟨64, 120, 1800⟩, 64, none, 0, some .running, some .running⟩
          [.tickDisplayDim, .wakeDisplay false]) :=
  ⟨by decide, @behaves_iff_fits ⟨64, 120, 1800⟩ 64 _ (by decide) _⟩

/-- The display goes off after a minute, and the dim ticker lights it a minute
later. -/
theorem tickDisplayDim_lights_display_off :
    boot ⟨64, 120, 1800⟩ 64 = some
        ⟨⟨64, 120, 1800⟩, 64, none, 0, some .running, some .running⟩ ∧
      ¬ AllSteps step Display.Behaves
        ⟨⟨64, 120, 1800⟩, 64, none, 0, some .running, some .running⟩
        [.setBacklightSettings ⟨64, 120, 60⟩ none, .tickDisplayOff,
          .tickDisplayDim] := by
  refine ⟨by decide, fun behaves => ?_⟩
  have third := (((behaves _ rfl).2 _ rfl).2 _ rfl).1
  have risen : (32 : Int) ≤ 0 := third _ rfl
  exact absurd risen (by decide)

end Backlight

end JetKvm
