import FivegLab.Config.Repository
import FivegLab.Interpolation
import Mathlib.Data.List.TakeWhile

/-!
# Critical images

What `validate_image_defaults` says about the tags and the digests of the images
that the lab rests on.
-/

namespace FivegLab.Config

/-- A character of the name of an environment variable. -/
def isVariableChar (c : Char) : Bool := c.isUpper || c.isDigit || c == '_'

/-- `IMAGE_DEFAULT_RE.fullmatch(value)`: the variable and the default of the form
`$\x7bVARIABLE:-default\x7d`. -/
def imageDefault (value : String) : Option (String × String) :=
  match value.toList with
  | '$' :: '\x7b' :: inner =>
      let name := inner.takeWhile isVariableChar
      match inner.dropWhile isVariableChar with
      | ':' :: '-' :: rest =>
          let default := rest.dropLast
          if name.head?.any Char.isUpper ∧ rest.getLast? = some '\x7d' ∧ default ≠ [] ∧
              '\x7d' ∉ default then
            some (.ofList name, .ofList default)
          else none
      | _ => none
  | _ => none

/-- `resolve_image_value(value)`. -/
def resolveImageValue (environ : String → Option String) (value : String) : String :=
  match imageDefault value with
  | some (name, default) => (environ name).getD default
  | none => value

example : resolveImageValue (fun _ => none) "$\x7bMONGODB_IMAGE:-mongo:8.3.8-noble\x7d" =
    "mongo:8.3.8-noble" := by decide

/-- The text closes no more braces than it has opened, at any place in it. -/
def closesOwn : ℕ → List Char → Bool
  | _, [] => true
  | depth, c :: rest =>
      if c = '\x7b' then closesOwn (depth + 1) rest
      else if c = '\x7d' then
        match depth with
        | 0 => false
        | depth + 1 => closesOwn depth rest
      else closesOwn depth rest

/-- The default of a value of the form `$\x7bVARIABLE:-default\x7d`, for any name of a
variable, and any default that closes its own braces only. -/
def variableDefault : List Char → Option (List Char)
  | '$' :: '\x7b' :: start :: inner =>
      match inner.dropWhile Interpolation.isNameChar with
      | ':' :: '-' :: rest =>
          if Interpolation.isNameStart start ∧ rest.getLast? = some '\x7d' ∧
            closesOwn 0 rest.dropLast then some rest.dropLast
          else none
      | _ => none
  | _ => none

/-- Replace a value by its default, as long as it has one. -/
def unwrapChars : ℕ → List Char → List Char
  | 0, value => value
  | limit + 1, value =>
      match variableDefault value with
      | some default => unwrapChars limit default
      | none => value

/-- The value, with defaults in the place of variables; a default is shorter than the
value that it is in. -/
def unwrapped (image : String) : String :=
  .ofList (unwrapChars image.toList.length image.toList)

example : unwrapped "$\x7bimage:-$\x7bIMAGE:-busybox:latest\x7d\x7d" = "busybox:latest" := by decide

theorem closesOwn_of_not_mem {depth : ℕ} {text : List Char} (unclosed : '\x7d' ∉ text) :
    closesOwn depth text = true := by
  induction text generalizing depth with
  | nil => rfl
  | cons c text ih =>
      rw [List.mem_cons, not_or] at unclosed
      rw [closesOwn.eq_def]
      dsimp only
      rw [if_neg (Ne.symm unclosed.1)]
      split
      · exact ih unclosed.2
      · exact ih unclosed.2

theorem variableDefault_of_not_mem {value : List Char} (unclosed : '\x7d' ∉ value) :
    variableDefault value = none := by
  unfold variableDefault
  split
  case h_2 => rfl
  case h_1 start inner =>
    split
    case h_2 => rfl
    case h_1 rest split =>
      rw [if_neg]
      rintro ⟨_, last, _⟩
      have inside : '\x7d' ∈ inner.dropWhile Interpolation.isNameChar := by
        rw [split]
        simp [List.mem_of_getLast? last]
      exact unclosed (by simp [(List.dropWhile_suffix _).subset inside])

theorem isAlpha_of_isUpper {c : Char} (upper : c.isUpper = true) : c.isAlpha = true := by
  change (c.isUpper || c.isLower) = true
  rw [upper, Bool.true_or]

theorem isNameChar_of_isVariableChar {c : Char} (capital : isVariableChar c = true) :
    Interpolation.isNameChar c = true := by
  rw [isVariableChar, Bool.or_eq_true, Bool.or_eq_true] at capital
  rw [Interpolation.isNameChar, Bool.or_eq_true]
  rcases capital with (upper | digit) | underscore
  · left
    change (c.isAlpha || c.isDigit) = true
    rw [isAlpha_of_isUpper upper, Bool.true_or]
  · left
    change (c.isAlpha || c.isDigit) = true
    rw [digit, Bool.or_true]
  · exact .inr underscore

/-- A name of capital letters, digits and underscores is that of a variable. -/
theorem variableDefault_of_upper {inner rest : List Char}
    (dropped : inner.dropWhile isVariableChar = ':' :: '-' :: rest)
    (upper : (inner.takeWhile isVariableChar).head?.any Char.isUpper)
    (last : rest.getLast? = some '\x7d') (unclosed : '\x7d' ∉ rest.dropLast) :
    variableDefault ('$' :: '\x7b' :: inner) = some rest.dropLast := by
  have split := List.takeWhile_append_dropWhile (p := isVariableChar) (l := inner)
  rw [dropped] at split
  cases name : inner.takeWhile isVariableChar with
  | nil => simp [name] at upper
  | cons start name' =>
      rw [name, List.cons_append] at split
      rw [name, List.head?_cons, Option.any_some] at upper
      have inside : ∀ c ∈ name', Interpolation.isNameChar c = true := by
        intro c member
        apply isNameChar_of_isVariableChar
        refine List.mem_takeWhile_imp (l := inner) ?_
        rw [name]
        exact List.mem_cons_of_mem _ member
      have colon : (':' :: '-' :: rest).dropWhile Interpolation.isNameChar = ':' :: '-' :: rest :=
        rfl
      rw [← split, variableDefault, List.dropWhile_append_of_pos inside, colon]
      have begins : Interpolation.isNameStart start = true := by
        rw [Interpolation.isNameStart, isAlpha_of_isUpper upper, Bool.true_or]
      exact if_pos ⟨begins, last, closesOwn_of_not_mem unclosed⟩

/-- What the program replaces by a default is replaced. -/
theorem unwrapped_of_imageDefault {value name default : String}
    (found : imageDefault value = some (name, default)) : unwrapped value = default := by
  unfold imageDefault at found
  split at found
  case h_2 => cases found
  case h_1 inner chars =>
    dsimp only at found
    split at found
    case h_2 => cases found
    case h_1 rest dropped =>
      split at found
      case isFalse => cases found
      case isTrue form =>
        rcases form with ⟨upper, last, _, unclosed⟩
        cases found
        have default := variableDefault_of_upper dropped upper last unclosed
        rw [unwrapped, chars, List.length_cons, unwrapChars, default]
        dsimp only
        rw [List.length_cons, unwrapChars, variableDefault_of_not_mem unclosed]

/-- The program replaces a variable that is not set alike. -/
theorem resolveImageValue_unset {value name default : String}
    (found : imageDefault value = some (name, default)) :
    resolveImageValue (fun _ => none) value = unwrapped value := by
  rw [unwrapped_of_imageDefault found, resolveImageValue, found]
  rfl

/-- The last component of the name of an image, in front of its digest. -/
def lastComponent (image : List Char) : List Char :=
  ((image.takeWhile (· ≠ '@')).reverse.takeWhile (· ≠ '/')).reverse

/-- The tag of an image. -/
def tag (image : String) : Option String :=
  let component := lastComponent image.toList
  let found := component.reverse.takeWhile (· ≠ ':')
  if ':' ∈ component ∧ found ≠ [] then some (.ofList found.reverse) else none

/-- The digest of an image. -/
def digest (image : String) : Option String :=
  match image.toList.dropWhile (· ≠ '@') with
  | '@' :: c :: rest => some (.ofList (c :: rest))
  | _ => none

/-- The image names a tag or a digest. -/
def Explicit (image : String) : Prop := tag image ≠ none ∨ digest image ≠ none

/-- The image names a tag or a digest, and its tag is not `latest`. -/
def Pinned (image : String) : Prop := Explicit image ∧ tag image ≠ some "latest"

instance (image : String) : Decidable (Explicit image) :=
  inferInstanceAs (Decidable (tag image ≠ none ∨ digest image ≠ none))

instance (image : String) : Decidable (Pinned image) :=
  inferInstanceAs (Decidable (Explicit image ∧ tag image ≠ some "latest"))

/-- What the check does not see: it looks at the end of the value as it is written. -/
inductive Missed (image : String) : Prop
  /-- The default of a variable ends as the check does not allow it for a value. -/
  | floatingDefault (wrapped : unwrapped image ≠ image)
      (undigested : '@' ∉ (unwrapped image).toList)
      (floating : isFloating (unwrapped image) = true)
  /-- There is neither a tag nor a digest. -/
  | unlabelled (untagged : tag (unwrapped image) = none)
      (undigested : digest (unwrapped image) = none)
  /-- The tag stands in front of a digest. -/
  | digested (digested : '@' ∈ (unwrapped image).toList)
      (latest : tag (unwrapped image) = some "latest")

theorem takeWhile_append_cons_of_mem {c : Char} {chars : List Char} (mem : c ∈ chars) :
    ∃ rest, chars = chars.takeWhile (· ≠ c) ++ c :: rest := by
  induction chars with
  | nil => cases mem
  | cons first chars ih =>
      by_cases same : first = c
      · subst same
        exact ⟨chars, by simp⟩
      · rcases ih (List.mem_of_ne_of_mem (Ne.symm same) mem) with ⟨rest, split⟩
        refine ⟨rest, ?_⟩
        rw [List.takeWhile_cons_of_pos (by simpa using same), List.cons_append, ← split]

theorem lastComponent_suffix {image : List Char} (undigested : '@' ∉ image) :
    lastComponent image <:+ image := by
  have name : image.takeWhile (· ≠ '@') = image :=
    List.takeWhile_eq_self_iff.mpr fun c mem => by
      simpa using fun same : c = '@' => undigested (same ▸ mem)
  rw [lastComponent, name, ← List.reverse_prefix, List.reverse_reverse]
  exact List.takeWhile_prefix _

/-- Without a digest, a value ends with its tag. -/
theorem endsWith_tag {image found : String} (undigested : '@' ∉ image.toList)
    (tagged : tag image = some found) : Text.EndsWith image (":" ++ found) := by
  simp only [tag] at tagged
  split at tagged
  case isTrue present =>
    rcases Option.some.inj tagged with rfl
    rcases takeWhile_append_cons_of_mem (List.mem_reverse.mpr present.1) with ⟨rest, split⟩
    have component := congrArg List.reverse split
    rw [List.reverse_reverse, List.reverse_append, List.reverse_cons,
      List.append_assoc] at component
    have ending : ':' :: ((lastComponent image.toList).reverse.takeWhile (· ≠ ':')).reverse <:+
        lastComponent image.toList := ⟨rest.reverse, component.symm⟩
    have chars : (":" ++ String.ofList
        ((lastComponent image.toList).reverse.takeWhile (· ≠ ':')).reverse).toList =
        ':' :: ((lastComponent image.toList).reverse.takeWhile (· ≠ ':')).reverse := by
      simp
    rw [Text.EndsWith, chars]
    exact ending.trans (lastComponent_suffix undigested)
  case isFalse => cases tagged

/-- What ends with a tag has it, when there is no digest. -/
theorem tag_of_endsWith {image : String} (undigested : '@' ∉ image.toList)
    (ends : Text.EndsWith image ":latest") : tag image = some "latest" := by
  rcases ends with ⟨front, split⟩
  have chars : (":latest" : String).toList = [':', 'l', 'a', 't', 'e', 's', 't'] := rfl
  have name : image.toList.takeWhile (· ≠ '@') = image.toList :=
    List.takeWhile_eq_self_iff.mpr fun c mem => by
      simpa using fun same : c = '@' => undigested (same ▸ mem)
  have component : (lastComponent image.toList).reverse =
      ['t', 's', 'e', 't', 'a', 'l', ':'] ++ front.reverse.takeWhile (· ≠ '/') := by
    rw [lastComponent, name, List.reverse_reverse, ← split, chars]
    simp
  have member : ':' ∈ lastComponent image.toList := by
    rw [← List.mem_reverse, component]
    simp
  have found : (lastComponent image.toList).reverse.takeWhile (· ≠ ':') =
      ['t', 's', 'e', 't', 'a', 'l'] := by
    rw [component]
    simp
  simp only [tag, found]
  rw [if_pos ⟨member, by simp⟩]
  rfl

/-- A floating image without a digest is not pinned. -/
theorem not_pinned_of_isFloating {image : String} (undigested : '@' ∉ image.toList)
    (floating : isFloating image = true) : ¬Pinned image := by
  rw [isFloating, Bool.or_eq_true, decide_eq_true_iff, decide_eq_true_iff] at floating
  rcases floating with ends | rfl
  · exact fun pinned => pinned.2 (tag_of_endsWith undigested ends)
  · decide

variable [Unicode]

/-- The five image values, as they are printed. -/
def criticalImages (compose : Entries) : List String :=
  [entry compose "x-open5gs-image", entry compose "x-ueransim-image",
    nestedNames compose ["services", "mongodb", "image"],
    nestedNames compose ["services", "open5gs-dbctl", "image"],
    nestedNames compose ["services", "dn-server", "image"]].map Yaml.printed

/-- The check of the floating images passes. -/
def FloatingPasses (compose : Entries) : Prop :=
  ∀ check ∈ validateImageDefaults compose, check.name = "critical_images_not_latest" →
    check.status = .pass

instance (compose : Entries) : Decidable (FloatingPasses compose) :=
  inferInstanceAs (Decidable (∀ check ∈ validateImageDefaults compose, _ → _))

theorem not_floating {compose : Entries} (passes : FloatingPasses compose) :
    ∀ image ∈ criticalImages compose, isFloating image = false := by
  have first := passes _ List.mem_cons_self rfl
  have notFail : (check "critical_images_not_latest"
      ((criticalImages compose).filter isFloating).isEmpty
      ("floating=" ++ Yaml.reprTexts ((criticalImages compose).filter isFloating))).status ≠
      .fail :=
    fun fails => by cases first.symm.trans fails
  have none := check_passes_iff.mp notFail
  intro image mem
  have kept := List.filter_eq_nil_iff.mp (List.isEmpty_iff.mp none) image mem
  simpa using kept

omit [Unicode] in
/-- A value that is not floating is pinned, but for what the check misses. -/
theorem pinned_iff_not_missed {image : String} (kept : isFloating image = false) :
    Pinned (unwrapped image) ↔ ¬Missed image := by
  constructor
  · intro pinned missed
    cases missed with
    | floatingDefault _ undigested floating =>
        exact not_pinned_of_isFloating undigested floating pinned
    | unlabelled untagged undigested =>
        exact pinned.1.elim (fun tagged => tagged untagged) (fun digested => digested undigested)
    | digested _ latest => exact pinned.2 latest
  · intro seen
    constructor
    · by_contra bare
      rw [Explicit, not_or, ne_eq, not_not, ne_eq, not_not] at bare
      exact seen (.unlabelled bare.1 bare.2)
    · intro latest
      by_cases digested : '@' ∈ (unwrapped image).toList
      · exact seen (.digested digested latest)
      · have ends : Text.EndsWith (unwrapped image) ":latest" := endsWith_tag digested latest
        have floating : isFloating (unwrapped image) = true := by simp [isFloating, ends]
        refine seen (.floatingDefault ?_ digested floating)
        intro same
        rw [same, kept] at floating
        cases floating

/-- A document with the images of the lab, and the given one for Open5GS. -/
def imagesCompose (open5gs : String) : Entries :=
  record.entries [("x-open5gs-image", .text open5gs),
    ("x-ueransim-image", .text "$\x7bUERANSIM_IMAGE:-gradiant/ueransim:3.3.0\x7d"),
    ("services", record [
      ("mongodb", record [("image", .text "$\x7bMONGODB_IMAGE:-mongo:8.3.8-noble\x7d")]),
      ("open5gs-dbctl", record [("image", .text "gradiant/open5gs-dbctl:0.10.3")]),
      ("dn-server", record [("image", .text "busybox:1.37.0")])])]

end FivegLab.Config
