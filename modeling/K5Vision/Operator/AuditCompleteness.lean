import K5Vision.Identity.UuidText
import K5Vision.Operator.AuditMiddleware

/-!
# Audit completeness

The state-changing routes below `/api/v1/operator` are declared with templates that
the framework matches, and the middleware recognises requests by rules of its own.
The two agree up to three slips: the route that assigns a role profile is in no rule,
an identifier is accepted by the framework in spellings that `_ID` does not match,
and a path may end with a newline, which the framework ignores behind a literal.

The rules look at an identifier in one way only, `isIdText`, since no literal of a
rule is as long as an identifier.  So a request is classified as its template is, with
that one bit for the identifier (`matchSegments_eq`), and the templates are finitely
many.
-/

namespace K5Vision.Operator

open Identity

/-! ## Routes -/

/-- The routes that change state.  Those that hand out a media cookie or judge a
frame the caller supplies store nothing. -/
inductive MutatingRoute
  | createUser
  | updateUser
  | setCameraAccess
  | resetPassword
  | assignRole
  | createRole
  | updateRole
  | deleteRole
  | configureStorage
  | configureHost
  | synchronizeHost
  | createConnection
  | updateConnection
  | deleteConnection
  | testConnection
  | retryConnection
  | configureProvider
  | testProvider
  | linkUser
  | unlinkUser
  | discover
  | profiles
  | probeStream
  | enrollCamera
  | connect
  | connectStream
  | removeCamera
  | recordingPreference
  | configureAnalytics
  | prepareExport
  | configureCamera
  | cameraStatusWithCredentials
  | synchronizeCamera
  deriving DecidableEq, Repr

/-- A segment of a template. -/
inductive TemplatePart
  | literal (text : String)
  | identifier
  deriving DecidableEq, Repr

def adminTemplate (parts : List TemplatePart) : List TemplatePart :=
  .literal "api" :: .literal "v1" :: .literal "operator" :: .literal "admin" :: parts

def operatorTemplate (parts : List TemplatePart) : List TemplatePart :=
  .literal "api" :: .literal "v1" :: .literal "operator" :: parts

namespace MutatingRoute

def declaration : MutatingRoute → String × List TemplatePart
  | .createUser => ("POST", adminTemplate [.literal "users"])
  | .updateUser => ("PATCH", adminTemplate [.literal "users", .identifier])
  | .setCameraAccess =>
      ("PUT", adminTemplate [.literal "users", .identifier, .literal "camera-access"])
  | .resetPassword =>
      ("POST", adminTemplate [.literal "users", .identifier, .literal "reset-password"])
  | .assignRole => ("PUT", adminTemplate [.literal "users", .identifier, .literal "role-profile"])
  | .createRole => ("POST", adminTemplate [.literal "roles"])
  | .updateRole => ("PATCH", adminTemplate [.literal "roles", .identifier])
  | .deleteRole => ("DELETE", adminTemplate [.literal "roles", .identifier])
  | .configureStorage => ("PATCH", adminTemplate [.literal "storage"])
  | .configureHost => ("PATCH", adminTemplate [.literal "time"])
  | .synchronizeHost => ("POST", adminTemplate [.literal "time", .literal "synchronize"])
  | .createConnection => ("POST", adminTemplate [.literal "integrations"])
  | .updateConnection => ("PATCH", adminTemplate [.literal "integrations", .identifier])
  | .deleteConnection => ("DELETE", adminTemplate [.literal "integrations", .identifier])
  | .testConnection =>
      ("POST", adminTemplate [.literal "integrations", .identifier, .literal "test"])
  | .retryConnection =>
      ("POST", adminTemplate [.literal "integrations", .identifier, .literal "retry"])
  | .configureProvider => ("PUT", adminTemplate [.literal "sso", .literal "provider"])
  | .testProvider => ("POST", adminTemplate [.literal "sso", .literal "provider", .literal "test"])
  | .linkUser => ("POST", adminTemplate [.literal "sso", .literal "links"])
  | .unlinkUser => ("DELETE", adminTemplate [.literal "sso", .literal "links", .identifier])
  | .discover => ("POST", operatorTemplate [.literal "camera-discovery"])
  | .profiles => ("POST", operatorTemplate [.literal "camera-profiles"])
  | .probeStream => ("POST", operatorTemplate [.literal "camera-stream-probe"])
  | .enrollCamera => ("POST", operatorTemplate [.literal "cameras"])
  | .connect => ("POST", operatorTemplate [.literal "cameras", .literal "connect"])
  | .connectStream => ("POST", operatorTemplate [.literal "cameras", .literal "stream-connect"])
  | .removeCamera => ("DELETE", operatorTemplate [.literal "cameras", .identifier])
  | .recordingPreference =>
      ("PUT", operatorTemplate [.literal "cameras", .identifier, .literal "recording"])
  | .configureAnalytics =>
      ("PATCH", operatorTemplate [.literal "cameras", .identifier, .literal "analytics"])
  | .prepareExport =>
      ("POST", operatorTemplate [.literal "cameras", .identifier, .literal "exports"])
  | .configureCamera =>
      ("PATCH", operatorTemplate [.literal "cameras", .identifier, .literal "time"])
  | .cameraStatusWithCredentials =>
      ("POST", operatorTemplate [.literal "cameras", .identifier, .literal "time",
        .literal "status"])
  | .synchronizeCamera =>
      ("POST", operatorTemplate [.literal "cameras", .identifier, .literal "time",
        .literal "synchronize"])

def method (route : MutatingRoute) : String := route.declaration.1

def template (route : MutatingRoute) : List TemplatePart := route.declaration.2

end MutatingRoute

/-! ## Routed requests -/

/-- The spellings of a UUID that the framework accepts. -/
inductive Spelling
  | simple
  | hyphenated
  | urn
  | braced
  deriving DecidableEq, Repr

def Spelling.text (digits : List Char) : Spelling → String
  | .simple => String.ofList digits
  | .hyphenated => String.ofList (Uuid.hyphenate digits)
  | .urn => String.ofList (['u', 'r', 'n', ':', 'u', 'u', 'i', 'd', ':'] ++ Uuid.hyphenate digits)
  | .braced => String.ofList ('\x7b' :: Uuid.hyphenate digits ++ ['\x7d'])

/-- A request that the framework routes to a mutating route. -/
structure RoutedRequest where
  route : MutatingRoute
  spelling : Spelling
  digits : List Char
  /-- The path ends with a newline, behind its last literal. -/
  newline : Bool
  digits_length : digits.length = 32
  digits_hex : digits.all isHexDigit = true
  newline_literal : newline = true → route.template.getLast? ≠ some .identifier

/-- The template with the newline in its last literal. -/
def withNewline (newline : Bool) : List TemplatePart → List TemplatePart
  | [] => []
  | [.literal text] => [.literal (if newline then text ++ "\n" else text)]
  | [.identifier] => [.identifier]
  | part :: rest => part :: withNewline newline rest

/-- The path of a template. -/
def instantiate (id : String) : List TemplatePart → List String :=
  List.map fun
    | .literal text => text
    | .identifier => id

namespace RoutedRequest

variable (request : RoutedRequest)

def id : String := request.spelling.text request.digits

def parts : List TemplatePart := withNewline request.newline request.route.template

def path : List String := instantiate request.id request.parts

end RoutedRequest

/-- The framework's router: it routes a request to a mutating route only if the path is
an instance of the template. -/
structure Router where
  route : String → List String → Option RoutedRequest
  sound : ∀ method path request, route method path = some request →
    method = request.route.method ∧ path = request.path

/-! ## Classifying a template -/

structure IdentifierView where
  isIdText : Bool
  isBounded : Bool
  deriving DecidableEq, Repr

/-- A segment pattern on a part of a template. -/
def SegmentPattern.acceptsPart (view : IdentifierView) : SegmentPattern → TemplatePart → Bool
  | pattern, .literal text => pattern.accepts text
  | .target, .identifier => view.isIdText
  | .identifier, .identifier => view.isIdText
  | .bounded, .identifier => view.isBounded
  | _, .identifier => false

/-- Whether a pattern matches a template, and whether it has a target. -/
def matchParts (view : IdentifierView) : List SegmentPattern → List TemplatePart → Option Bool
  | [], [] => some false
  | pattern :: patterns, part :: parts =>
      if pattern.acceptsPart view part then
        (matchParts view patterns parts).map fun found => pattern == .target || found
      else none
  | _, _ => none

/-- The match of a rule with a template. -/
def AuditRule.matchParts? (view : IdentifierView) (rule : AuditRule) (method : String)
    (parts : List TemplatePart) : Option Bool :=
  if method == rule.method then rule.patterns.findSome? fun pattern => matchParts view pattern parts
  else none

def hasPrefix (texts : List String) (parts : List TemplatePart) : Bool :=
  (texts.map TemplatePart.literal).isPrefixOf parts

/-- Whether `_classify` recognises a template. -/
def classifiesParts (view : IdentifierView) (method : String) (parts : List TemplatePart) : Bool :=
  (auditRules.findSome? fun rule => rule.matchParts? view method parts).isSome ||
    (["POST", "PUT", "PATCH", "DELETE"].contains method &&
      (auditAreas.any (fun area => hasPrefix ["api", "v1", "operator", "admin", area.1] parts) ||
        (cameraTimePatterns.findSome? fun pattern => matchParts view pattern parts) == some true ||
        (hasPrefix ["api", "v1", "auth", "mfa"] parts && 4 < parts.length) ||
        (hasPrefix ["api", "v1", "auth", "sso"] parts && 4 < parts.length)))

/-! ## Identifiers -/

/-- What the rules need to know of an identifier: it is too long for a literal of
theirs, it ends no file name, and `_ID` matches it or not. -/
structure IsIdentifier (id : String) : Prop where
  length : 32 ≤ id.length
  noDot : '.' ∉ id.toList
  uuid : isIdText id = true → (uuidOfText id).isSome = true

theorem isHexDigit_ne {c : Char} (h : isHexDigit c = true) :
    c ≠ '-' ∧ c ≠ '.' ∧ c ≠ '\x7b' ∧ c ≠ '\x7d' := by
  refine ⟨?_, ?_, ?_, ?_⟩ <;> rintro rfl <;> exact absurd h (by decide)

variable {digits : List Char}

theorem length_hyphenate (h : digits.length = 32) : (Uuid.hyphenate digits).length = 36 := by
  simp [Uuid.hyphenate, h]

theorem length_text (h : digits.length = 32) (spelling : Spelling) : (spelling.text digits).length =
      match spelling with
      | .simple => 32
      | .hyphenated => 36
      | .urn => 45
      | .braced => 38 := by
  have hhyphenate := length_hyphenate h
  cases spelling with
  | simple => rw [Spelling.text, String.length_ofList, h]
  | hyphenated => rw [Spelling.text, String.length_ofList, hhyphenate]
  | urn => rw [Spelling.text, String.length_ofList, List.length_append, hhyphenate]; rfl
  | braced =>
      rw [Spelling.text, String.length_ofList, List.length_append, List.length_cons, hhyphenate]
      rfl

theorem isIdText_text (hlength : digits.length = 32) (hhex : digits.all isHexDigit = true)
    (spelling : Spelling) : isIdText (spelling.text digits) = decide (spelling = .hyphenated) := by
  rw [List.all_eq_true] at hhex
  have htext := length_text hlength spelling
  unfold isIdText
  rw [htext]
  cases spelling with
  | simple => rfl
  | urn => rfl
  | braced => rfl
  | hyphenated =>
      simp only [Spelling.text, String.toList_ofList, beq_self_eq_true, Bool.true_and, decide_true]
      rw [List.all_eq_true]
      intro c hc
      rcases Uuid.mem_hyphenate hc with hdigit | rfl
      · rw [isIdChar, hhex c hdigit, Bool.true_or]
      · rfl

theorem RoutedRequest.isIdentifier (request : RoutedRequest) : IsIdentifier request.id := by
  have hhex : ∀ c ∈ request.digits, isHexDigit c = true := List.all_eq_true.mp request.digits_hex
  refine ⟨?_, ?_, ?_⟩
  · unfold RoutedRequest.id
    rw [length_text request.digits_length]
    cases request.spelling <;> decide
  · have hdot : '.' ∉ Uuid.hyphenate request.digits := by
      intro hmem
      rcases Uuid.mem_hyphenate hmem with hdigit | heq
      · exact (isHexDigit_ne (hhex _ hdigit)).2.1 rfl
      · cases heq
    unfold RoutedRequest.id
    cases request.spelling with
    | simple =>
        rw [Spelling.text, String.toList_ofList]
        exact fun hmem => (isHexDigit_ne (hhex _ hmem)).2.1 rfl
    | hyphenated =>
        rw [Spelling.text, String.toList_ofList]
        exact hdot
    | urn =>
        rw [Spelling.text, String.toList_ofList, List.mem_append, not_or]
        exact ⟨by decide, hdot⟩
    | braced =>
        rw [Spelling.text, String.toList_ofList, List.mem_append, List.mem_cons, not_or, not_or]
        exact ⟨⟨by decide, hdot⟩, by decide⟩
  · intro hid
    unfold RoutedRequest.id at hid ⊢
    rw [isIdText_text request.digits_length request.digits_hex, decide_eq_true_eq] at hid
    have hhyphen : '-' ∉ request.digits := fun hmem => (isHexDigit_ne (hhex _ hmem)).1 rfl
    rw [hid, Spelling.text, uuidOfText, String.toList_ofList, Uuid.filter_hyphenate hhyphen, if_pos
      request.digits_length]
    rfl

/-! ## A request is classified as its template is -/

def identifierView (id : String) : IdentifierView := ⟨isIdText id, 1 ≤ id.length && id.length ≤ 32⟩

/-- The texts of a pattern are shorter than an identifier. -/
def SegmentPattern.isShort : SegmentPattern → Bool
  | .literal text => text.length < 32
  | .oneOf texts => texts.all fun text => text.length < 32
  | _ => true

/-- No literal of a template looks like an identifier. -/
def TemplatePart.isPlain : TemplatePart → Bool
  | .literal text => !isIdText text
  | .identifier => true

section Simulation

variable {id : String} {view : IdentifierView}

theorem ne_of_length_lt {text : String} (hid : IsIdentifier id) (h : text.length < 32) :
    id ≠ text := by
  rintro rfl
  exact absurd hid.length (not_le.mpr h)

theorem accepts_identifier (hid : IsIdentifier id) {pattern : SegmentPattern}
    (hshort : pattern.isShort = true) :
    pattern.accepts id = pattern.acceptsPart (identifierView id) .identifier := by
  cases pattern with
  | literal text =>
      have hne := ne_of_length_lt hid (of_decide_eq_true hshort)
      exact beq_eq_false_iff_ne.mpr hne
  | oneOf texts =>
      rw [SegmentPattern.isShort, List.all_eq_true] at hshort
      change texts.contains id = false
      rw [Bool.eq_false_iff]
      intro hcontains
      have hmem := List.contains_iff_mem.mp hcontains
      exact ne_of_length_lt hid (of_decide_eq_true (hshort id hmem)) rfl
  | target => rfl
  | identifier => rfl
  | bounded => rfl
  | identifierMp4 =>
      change ((id.toList.take 36).all isIdChar && id.toList.drop 36 == _) = false
      rw [Bool.and_eq_false_iff]
      right
      rw [beq_eq_false_iff_ne]
      intro heq
      apply hid.noDot
      apply List.mem_of_mem_drop
      rw [heq]
      exact List.mem_cons_self

@[simp] theorem acceptsPart_literal (view : IdentifierView) (pattern : SegmentPattern)
    (text : String) : pattern.acceptsPart view (.literal text) = pattern.accepts text := by
  cases pattern <;> rfl

theorem matchSegments_cons (pattern : SegmentPattern) (patterns : List SegmentPattern)
    (segment : String) (segments : List String) :
    matchSegments (pattern :: patterns) (segment :: segments) =
      if pattern.accepts segment then
        (matchSegments patterns segments).map fun found =>
          if pattern = .target then some segment else found
      else none := rfl

theorem matchParts_cons (view : IdentifierView) (pattern : SegmentPattern)
    (patterns : List SegmentPattern) (part : TemplatePart) (parts : List TemplatePart) :
    matchParts view (pattern :: patterns) (part :: parts) =
      if pattern.acceptsPart view part then
        (matchParts view patterns parts).map fun found => pattern == .target || found
      else none := rfl

variable {parts : List TemplatePart}

theorem matchSegments_instantiate (hid : IsIdentifier id) {patterns : List SegmentPattern}
    (hshort : ∀ pattern ∈ patterns, pattern.isShort = true)
    (hplain : ∀ part ∈ parts, part.isPlain = true) :
    matchSegments patterns (instantiate id parts) =
      (matchParts (identifierView id) patterns parts).map
        fun found => if found then some id else none := by
  induction patterns generalizing parts with
  | nil =>
      cases parts with
      | nil => rfl
      | cons part parts => rfl
  | cons pattern patterns ih =>
      cases parts with
      | nil => rfl
      | cons part parts =>
          have hrest := ih (fun p hp => hshort p (List.mem_cons_of_mem _ hp))
            fun p hp => hplain p (List.mem_cons_of_mem _ hp)
          rw [instantiate, List.map_cons, matchSegments_cons, matchParts_cons]
          change (if _ then (matchSegments patterns (instantiate id parts)).map _ else none) = _
          rw [hrest]
          cases part with
          | literal text =>
              have hpart := hplain _ List.mem_cons_self
              rw [acceptsPart_literal]
              by_cases haccepts : pattern.accepts text = true
              · have hne : pattern ≠ .target := by
                  rintro rfl
                  rw [TemplatePart.isPlain, show isIdText text = true from haccepts] at hpart
                  cases hpart
                rw [if_pos haccepts, if_pos haccepts]
                simp [hne, Option.map_map, Function.comp_def]
              · rw [if_neg haccepts, if_neg haccepts]
                rfl
          | identifier =>
              dsimp only
              rw [accepts_identifier hid (hshort pattern List.mem_cons_self)]
              by_cases haccepts :
                  pattern.acceptsPart (identifierView id) .identifier = true
              · rw [if_pos haccepts, if_pos haccepts]
                by_cases heq : pattern = .target
                · simp [heq, Option.map_map, Function.comp_def]
                · simp [heq, Option.map_map, Function.comp_def]
              · rw [if_neg haccepts, if_neg haccepts]
                rfl

theorem isIdText_of_matchParts {patterns : List SegmentPattern}
    (hplain : ∀ part ∈ parts, part.isPlain = true)
    (h : matchParts view patterns parts = some true) : view.isIdText = true := by
  induction patterns generalizing parts with
  | nil => cases parts <;> simp [matchParts] at h
  | cons pattern patterns ih =>
      cases parts with
      | nil => simp [matchParts] at h
      | cons part parts =>
          rw [matchParts_cons] at h
          split_ifs at h with haccepts
          obtain ⟨found, hfound, htarget⟩ := Option.map_eq_some_iff.mp h
          rcases Bool.or_eq_true_iff.mp htarget with heq | rfl
          · rw [beq_iff_eq] at heq
            subst heq
            cases part with
            | literal text =>
                have hpart := hplain _ List.mem_cons_self
                rw [TemplatePart.isPlain, show isIdText text = true from haccepts] at hpart
                cases hpart
            | identifier => exact haccepts
          · exact ih (fun p hp => hplain p (List.mem_cons_of_mem _ hp)) hfound

theorem isPrefixOf_instantiate (hid : IsIdentifier id) (texts : List String)
    (hshort : ∀ text ∈ texts, text.length < 32) (parts : List TemplatePart) :
    texts.isPrefixOf (instantiate id parts) = hasPrefix texts parts := by
  induction texts generalizing parts with
  | nil => simp [hasPrefix]
  | cons text texts ih =>
      cases parts with
      | nil => rfl
      | cons part parts =>
          have hrest := ih (fun t ht => hshort t (List.mem_cons_of_mem _ ht)) parts
          have htext := hshort text List.mem_cons_self
          unfold hasPrefix at hrest ⊢
          rw [instantiate, List.map_cons, List.map_cons, List.isPrefixOf, List.isPrefixOf]
          change (text == _ && texts.isPrefixOf (instantiate id parts)) = _
          rw [hrest]
          congr 1
          cases part with
          | literal other =>
              rw [Bool.eq_iff_iff]
              simp
          | identifier => simpa using (ne_of_length_lt hid htext).symm

/-- All patterns that are tried are shorter than an identifier. -/
theorem patterns_short : (auditRules.all fun rule => rule.patterns.all fun pattern =>
        pattern.all SegmentPattern.isShort) = true ∧
      (cameraTimePatterns.all fun pattern => pattern.all SegmentPattern.isShort) = true := by
  decide +kernel

theorem findSome?_instantiate (hid : IsIdentifier id) {patterns : List (List SegmentPattern)}
    (hshort : (patterns.all fun pattern => pattern.all SegmentPattern.isShort) = true)
    (hplain : ∀ part ∈ parts, part.isPlain = true) :
    (patterns.findSome? fun pattern => matchSegments pattern (instantiate id parts)) =
      (patterns.findSome? fun pattern => matchParts (identifierView id) pattern parts).map
        fun found => if found then some id else none := by
  induction patterns with
  | nil => rfl
  | cons pattern patterns ih =>
      rw [List.all_cons, Bool.and_eq_true, List.all_eq_true] at hshort
      rw [List.findSome?_cons, List.findSome?_cons, ih hshort.2,
        matchSegments_instantiate hid hshort.1 hplain]
      cases matchParts (identifierView id) pattern parts <;> rfl

theorem match?_instantiate (hid : IsIdentifier id) {rule : AuditRule}
    (hshort : (rule.patterns.all fun pattern => pattern.all SegmentPattern.isShort) = true)
    (hplain : ∀ part ∈ parts, part.isPlain = true) (method : String) :
    rule.match? method (instantiate id parts) =
      (rule.matchParts? (identifierView id) method parts).map
        fun found => if found then some id else none := by
  unfold AuditRule.match? AuditRule.matchParts?
  split_ifs
  · exact findSome?_instantiate hid hshort hplain
  · rfl

theorem findRule_instantiate (hid : IsIdentifier id) {rules : List AuditRule}
    (hshort : (rules.all fun rule => rule.patterns.all fun pattern =>
      pattern.all SegmentPattern.isShort) = true) (hplain : ∀ part ∈ parts, part.isPlain = true)
    (method : String) :
    (rules.findSome? fun rule => (rule.match? method (instantiate id parts)).map (rule, ·)) =
      (rules.findSome? fun rule =>
        (rule.matchParts? (identifierView id) method parts).map (rule, ·)).map
        fun found => (found.1, if found.2 then some id else none) := by
  induction rules with
  | nil => rfl
  | cons rule rules ih =>
      rw [List.all_cons, Bool.and_eq_true] at hshort
      rw [List.findSome?_cons, List.findSome?_cons, ih hshort.2,
        match?_instantiate hid hshort.1 hplain]
      cases rule.matchParts? (identifierView id) method parts <;> rfl

theorem findSome?_isSome_map {α β γ : Type} (f : α → Option β) (g : α → β → γ) (l : List α) :
    (l.findSome? fun a => (f a).map (g a)).isSome = (l.findSome? f).isSome := by
  induction l with
  | nil => rfl
  | cons a l ih =>
      rw [List.findSome?_cons, List.findSome?_cons]
      cases f a with
      | none => exact ih
      | some b => rfl

theorem uuidOfText_isSome (hid : IsIdentifier id) {patterns : List (List SegmentPattern)}
    (hplain : ∀ part ∈ parts, part.isPlain = true)
    (h : (patterns.findSome? fun pattern => matchParts (identifierView id) pattern parts) =
      some true) : (uuidOfText id).isSome = true := by
  obtain ⟨pattern, -, hmatch⟩ := List.exists_of_findSome?_eq_some h
  exact hid.uuid (isIdText_of_matchParts hplain hmatch)

theorem classifyArea_instantiate (hid : IsIdentifier id) (method : String)
    (parts : List TemplatePart) :
    (classifyArea method (instantiate id parts)).isSome =
      auditAreas.any fun area => hasPrefix ["api", "v1", "operator", "admin", area.1] parts := by
  have hprefix (area : String × String × String) (harea : area ∈ auditAreas) :
      ["api", "v1", "operator", "admin", area.1].isPrefixOf (instantiate id parts) =
        hasPrefix ["api", "v1", "operator", "admin", area.1] parts := by
    apply isPrefixOf_instantiate hid
    have hall : (auditAreas.all fun area =>
        ["api", "v1", "operator", "admin", area.1].all fun text => text.length < 32) = true := by
      decide +kernel
    intro text htext
    exact of_decide_eq_true (List.all_eq_true.mp (List.all_eq_true.mp hall area harea) text htext)
  unfold classifyArea
  generalize auditAreas = areas at hprefix
  induction areas with
  | nil => rfl
  | cons area areas ih =>
      rw [List.findSome?_cons, List.any_cons,
        ← ih fun other hother => hprefix other (List.mem_cons_of_mem _ hother),
        ← hprefix area List.mem_cons_self]
      dsimp only
      cases ["api", "v1", "operator", "admin", area.1].isPrefixOf (instantiate id parts) <;> rfl

theorem classifyCameraTime_instantiate (hid : IsIdentifier id)
    (hplain : ∀ part ∈ parts, part.isPlain = true) :
    (classifyCameraTime (instantiate id parts)).isSome =
      ((cameraTimePatterns.findSome? fun pattern =>
        matchParts (identifierView id) pattern parts) == some true) := by
  unfold classifyCameraTime
  rw [findSome?_instantiate hid patterns_short.2 hplain]
  rcases hfound : cameraTimePatterns.findSome? fun pattern =>
    matchParts (identifierView id) pattern parts with _ | found
  · rfl
  cases found with
  | false => rfl
  | true =>
      change ((uuidOfText id).map _).isSome = true
      rw [Option.isSome_map, uuidOfText_isSome hid hplain hfound]

theorem classifyAuth_instantiate (hid : IsIdentifier id) (parts : List TemplatePart) :
    (classifyAuth (instantiate id parts)).isSome =
      ((hasPrefix ["api", "v1", "auth", "mfa"] parts && 4 < parts.length) ||
        (hasPrefix ["api", "v1", "auth", "sso"] parts && 4 < parts.length)) := by
  unfold classifyAuth
  rw [isPrefixOf_instantiate hid _ (by decide), isPrefixOf_instantiate hid _ (by decide),
    show (instantiate id parts).length = parts.length from List.length_map _]
  cases hasPrefix ["api", "v1", "auth", "mfa"] parts <;>
    cases hasPrefix ["api", "v1", "auth", "sso"] parts <;>
    cases decide (4 < parts.length) <;> rfl

/-- A request is classified if and only if its template is. -/
theorem classify_instantiate (hid : IsIdentifier id)
    (hplain : ∀ part ∈ parts, part.isPlain = true) (method : String) :
    (classify method (instantiate id parts)).isSome =
      classifiesParts (identifierView id) method parts := by
  unfold classify classifiesParts
  rw [findRule_instantiate hid patterns_short.1 hplain,
    ← findSome?_isSome_map _ (fun rule found => (rule, found)) auditRules]
  rcases hfound : auditRules.findSome? fun rule =>
    (rule.matchParts? (identifierView id) method parts).map (rule, ·) with _ | ⟨rule, found⟩
  · rw [hfound, Option.map_none, Option.isSome_none, Bool.false_or]
    dsimp only
    split_ifs with hmethod
    · rw [hmethod, Bool.true_and, Option.isSome_or, Option.isSome_or,
        classifyArea_instantiate hid, classifyCameraTime_instantiate hid hplain,
        classifyAuth_instantiate hid, Bool.or_assoc, Bool.or_assoc]
    · rw [Bool.eq_false_iff.mpr hmethod]
      rfl
  · rw [hfound, Option.map_some, Option.isSome_some, Bool.true_or]
    cases found with
    | false => rfl
    | true =>
        obtain ⟨other, -, hmatch⟩ := List.exists_of_findSome?_eq_some hfound
        obtain ⟨found, hmatch, heq⟩ := Option.map_eq_some_iff.mp hmatch
        cases heq
        unfold AuditRule.matchParts? at hmatch
        split_ifs at hmatch
        change ((uuidOfText id).map _).isSome = true
        rw [Option.isSome_map, uuidOfText_isSome hid hplain hmatch]

end Simulation

/-! ## Which requests are classified -/

def allRoutes : List MutatingRoute :=
  [.createUser, .updateUser, .setCameraAccess, .resetPassword, .assignRole, .createRole,
    .updateRole, .deleteRole, .configureStorage, .configureHost, .synchronizeHost,
    .createConnection, .updateConnection, .deleteConnection, .testConnection, .retryConnection,
    .configureProvider, .testProvider, .linkUser, .unlinkUser, .discover, .profiles,
    .probeStream, .enrollCamera, .connect, .connectStream, .removeCamera, .recordingPreference,
    .configureAnalytics, .prepareExport, .configureCamera, .cameraStatusWithCredentials,
    .synchronizeCamera]

theorem mem_allRoutes (route : MutatingRoute) : route ∈ allRoutes := by
  cases route <;> decide

/-- Whether a request is recognised, by its route, the spelling of its identifier and
its newline. -/
def recognised (isHyphenated newline : Bool) : MutatingRoute → Bool
  | .assignRole => false
  -- below an area that is audited as a whole
  | .updateRole | .deleteRole | .synchronizeHost | .updateConnection | .deleteConnection
  | .testConnection | .retryConnection => true
  -- the end of the path is `[^/]{1,32}`, which matches a newline
  | .cameraStatusWithCredentials | .synchronizeCamera => isHyphenated
  | route => !newline && (isHyphenated || !route.template.contains .identifier)

def RoutedRequest.covered (request : RoutedRequest) : Bool :=
  recognised (request.spelling = .hyphenated) request.newline request.route

theorem classifiesParts_template : (allRoutes.all fun route => [true, false].all fun newline =>
      [true, false].all fun isId => [true, false].all fun isBounded =>
        (newline && route.template.getLast? == some .identifier) ||
          classifiesParts ⟨isId, isBounded⟩ route.method (withNewline newline route.template) ==
            recognised isId newline route) = true := by
  decide +kernel

theorem template_plain : (allRoutes.all fun route => [true, false].all fun newline =>
      (withNewline newline route.template).all TemplatePart.isPlain) = true := by
  decide +kernel

theorem mem_bool (b : Bool) : b ∈ [true, false] := by cases b <;> decide

theorem classify_covered (request : RoutedRequest) :
    (classify request.route.method request.path).isSome = request.covered := by
  have hplain : ∀ part ∈ request.parts, part.isPlain = true := by
    have hall := template_plain
    simp only [List.all_eq_true] at hall
    exact hall request.route (mem_allRoutes _) request.newline (mem_bool _)
  rw [RoutedRequest.path, classify_instantiate request.isIdentifier hplain]
  have hall := classifiesParts_template
  simp only [List.all_eq_true, Bool.or_eq_true, Bool.and_eq_true, beq_iff_eq] at hall
  have hid : isIdText request.id = decide (request.spelling = .hyphenated) :=
    isIdText_text request.digits_length request.digits_hex request.spelling
  unfold identifierView
  rw [hid]
  rcases hall request.route (mem_allRoutes _) request.newline (mem_bool _)
    (decide (request.spelling = .hyphenated)) (mem_bool _)
    (1 ≤ request.id.length && request.id.length ≤ 32) (mem_bool _) with ⟨hnewline, hlast⟩ | heq
  · exact absurd hlast (request.newline_literal hnewline)
  · exact heq

/-! ## What a classification is for -/

/-- The application does not run before a started event is durable. -/
structure Audited (scope : Scope) : Prop where
  started : ∀ env, .runApplication ∈ callMiddleware env scope → ∃ entry rest,
    callMiddleware env scope = .record entry .appended :: rest ∧ entry.outcome = "started"
  refused : ∀ env, env.attempt ≠ .appended → .runApplication ∉ callMiddleware env scope

/-- A mutating request is audited if and only if it is classified. -/
theorem audited_iff_classified {method : String} (hmethod : method ≠ "GET") (path : List String) :
    Audited ⟨true, method, path⟩ ↔ (classify method path).isSome = true := by
  constructor
  · intro haudited
    by_contra hnone
    have hclassify : classify method path = none := by simpa using hnone
    have hread : classifyRead ⟨true, method, path⟩ = none := by
      simp [classifyRead, hmethod]
    -- without a classification the application runs at once, whatever the store does
    refine haudited.refused ⟨0, .refused, .refused, none, none, false⟩ (by simp) ?_
    simp [callMiddleware, hclassify, hread]
  · intro hsome
    obtain ⟨found, hfound⟩ := Option.isSome_iff_exists.mp hsome
    constructor
    · intro env hrun
      unfold callMiddleware at hrun ⊢
      rw [if_pos rfl, hfound] at hrun ⊢
      dsimp only at hrun ⊢
      cases hattempt : env.attempt with
      | appended => exact ⟨_, _, rfl, rfl⟩
      | refused => simp [hattempt] at hrun
      | raised => simp [hattempt] at hrun
    · intro env hattempt
      unfold callMiddleware
      rw [if_pos rfl, hfound]
      dsimp only
      cases hcase : env.attempt with
      | appended => exact absurd hcase hattempt
      | refused => simp
      | raised => simp

theorem method_ne_get (route : MutatingRoute) : route.method ≠ "GET" := by
  cases route <;> decide

/-- A routed mutating request is audited before it runs if and only if it is covered. -/
theorem audited_iff_covered (router : Router) {method : String} {path : List String}
    {request : RoutedRequest} (hroute : router.route method path = some request) :
    Audited ⟨true, method, path⟩ ↔ request.covered = true := by
  obtain ⟨rfl, rfl⟩ := router.sound method path request hroute
  rw [audited_iff_classified (method_ne_get _), classify_covered]

/-! ## Concrete requests -/

def firstRequest (route : MutatingRoute) (spelling : Spelling) : RoutedRequest where
  route := route
  spelling := spelling
  digits := List.replicate 31 '0' ++ ['1']
  newline := false
  digits_length := by decide
  digits_hex := by decide
  newline_literal := by simp

/-- A router that knows one request. -/
def RoutedRequest.router (request : RoutedRequest) : Router where
  route method path :=
    if method = request.route.method ∧ path = request.path then some request else none
  sound := by
    intro method path other hroute
    split_ifs at hroute with hsame
    cases hroute
    exact hsame

theorem RoutedRequest.router_route {request : RoutedRequest} {method : String}
    {path : List String} (hmethod : method = request.route.method) (hpath : path = request.path) :
    request.router.route method path = some request :=
  if_pos ⟨hmethod, hpath⟩

theorem audited_iff_covered_update :
    Audited ⟨true, "PATCH", ["api", "v1", "operator", "admin", "users",
        "00000000-0000-0000-0000-000000000001"]⟩ ↔
      (firstRequest .updateUser .hyphenated).covered = true :=
  audited_iff_covered (firstRequest .updateUser .hyphenated).router
    (RoutedRequest.router_route (by decide +kernel) (by decide +kernel))

/-- Assigning a role profile runs without a trace, and so does an update whose
identifier is spelled without hyphens. -/
theorem assign_role_not_audited :
    (firstRequest .assignRole .hyphenated).router.route "PUT" ["api", "v1", "operator", "admin",
        "users", "00000000-0000-0000-0000-000000000001", "role-profile"] =
        some (firstRequest .assignRole .hyphenated) ∧
      ¬Audited ⟨true, "PUT", ["api", "v1", "operator", "admin", "users",
        "00000000-0000-0000-0000-000000000001", "role-profile"]⟩ ∧
      ¬Audited ⟨true, "PATCH", ["api", "v1", "operator", "admin", "users",
        "00000000000000000000000000000001"]⟩ := by
  refine ⟨?_, ?_, ?_⟩
  · exact RoutedRequest.router_route (by decide +kernel) (by decide +kernel)
  · rw [audited_iff_classified (by decide)]
    decide +kernel
  · rw [audited_iff_classified (by decide)]
    decide +kernel

end K5Vision.Operator
