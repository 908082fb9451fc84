import Mathlib.Data.List.Basic
import Mathlib.Data.List.Sort

/-!
# A browser's cookies

The cookies that a browser keeps for one host, as RFC 6265 says: a cookie replaces the one with
its name and path, lives until it expires, and goes along with every request whose path it
matches. Times are in milliseconds, but an `Expires` attribute counts whole seconds.
-/

namespace CookieJar

structure SetCookie where
  name : String
  value : String
  path : String
  expires : ℕ
  secure : Bool
  httpOnly : Bool
  /-- `SameSite=Lax`; otherwise `SameSite=None` -/
  lax : Bool
  deriving DecidableEq

/-- A request to the host: whether it is made over https, by a page of the same site, and as a
top-level navigation with a safe method. -/
structure Target where
  path : String
  rooted : ['/'] <+: path.toList
  https : Bool
  sameSite : Bool
  navigation : Bool

/-- A cookie's path matches the paths below it. -/
def PathMatches (cookie request : String) : Prop :=
  cookie = request ∨ cookie.toList <+: request.toList ∧
    (cookie.toList.getLast? = some '/' ∨ request.toList[cookie.toList.length]? = some '/')

instance (cookie request : String) : Decidable (PathMatches cookie request) :=
  inferInstanceAs (Decidable (_ ∨ _ ∧ (_ ∨ _)))

example : PathMatches "/auth" "/auth/refresh" ∧ ¬PathMatches "/auth" "/authors" := by decide

def SetCookie.SameKey (a b : SetCookie) : Prop := a.name = b.name ∧ a.path = b.path

instance (a b : SetCookie) : Decidable (a.SameKey b) := inferInstanceAs (Decidable (_ ∧ _))

def SetCookie.Live (cookie : SetCookie) (now : ℕ) : Prop := now / 1000 < cookie.expires

instance (cookie : SetCookie) (now : ℕ) : Decidable (cookie.Live now) :=
  inferInstanceAs (Decidable (_ < _))

lemma SetCookie.Live.mono {cookie : SetCookie} {now later : ℕ} (h : cookie.Live later) (hle : now ≤ later) :
    cookie.Live now :=
  Nat.lt_of_le_of_lt (Nat.div_le_div_right hle) h

def SetCookie.Goes (cookie : SetCookie) (now : ℕ) (target : Target) : Prop :=
  cookie.Live now ∧ PathMatches cookie.path target.path ∧
    (cookie.secure = true → target.https = true) ∧
    (cookie.lax = true → (target.sameSite || target.navigation) = true)

instance (cookie : SetCookie) (now : ℕ) (target : Target) : Decidable (cookie.Goes now target) :=
  inferInstanceAs (Decidable (_ ∧ _ ∧ (_ → _) ∧ (_ → _)))

/-- The cookies of the host, no two for one name and path. -/
structure Jar where
  cookies : List SetCookie
  keys : cookies.Pairwise fun a b => ¬a.SameKey b

namespace Jar

def empty : Jar := ⟨[], .nil⟩

/-- A cookie that has expired when it is set only removes the one that it replaces. -/
def store (jar : Jar) (now : ℕ) (cookie : SetCookie) : Jar where
  cookies :=
    let others := jar.cookies.filter fun c => ¬cookie.SameKey c
    if cookie.Live now then cookie :: others else others
  keys := by
    have hothers := jar.keys.filter fun c => ¬cookie.SameKey c
    split
    · exact List.pairwise_cons.mpr ⟨fun c hc => by simpa using (List.mem_filter.mp hc).2, hothers⟩
    · exact hothers

def storeAll (jar : Jar) (now : ℕ) (cookies : List SetCookie) : Jar :=
  cookies.foldl (fun jar cookie => jar.store now cookie) jar

/-- The request header, the cookies with longer paths first. -/
def header (jar : Jar) (now : ℕ) (target : Target) : List SetCookie :=
  (jar.cookies.filter fun c => c.Goes now target).mergeSort
    fun a b => decide (b.path.toList.length ≤ a.path.toList.length)

/-- What a server reads under a name: the first cookie of that name. -/
def read (jar : Jar) (now : ℕ) (target : Target) (name : String) : Option String :=
  ((jar.header now target).find? fun c => c.name = name).map SetCookie.value

/-- What a script of the page can read. -/
def scriptable (jar : Jar) : List SetCookie := jar.cookies.filter fun c => ¬c.httpOnly

variable {jar : Jar} {cookie c : SetCookie} {now later : ℕ} {target : Target} {name : String}

lemma mem_store : c ∈ (jar.store now cookie).cookies ↔
    (c = cookie ∧ cookie.Live now) ∨ (c ∈ jar.cookies ∧ ¬cookie.SameKey c) := by
  unfold store
  by_cases hlive : cookie.Live now <;> simp [hlive]

/-- Storing touches no cookie of another name. -/
lemma mem_store_of_ne (h : c.name ≠ cookie.name) :
    c ∈ (jar.store now cookie).cookies ↔ c ∈ jar.cookies := by
  rw [mem_store]
  constructor
  · rintro (⟨rfl, -⟩ | ⟨hc, -⟩)
    · exact absurd rfl h
    · exact hc
  · exact fun hc => .inr ⟨hc, fun hkey => h hkey.1.symm⟩

lemma mem_header : c ∈ jar.header now target ↔ c ∈ jar.cookies ∧ c.Goes now target := by
  simp [header, List.mem_mergeSort]

lemma read_eq_none (h : ∀ c ∈ jar.cookies, c.name = name → ¬c.Goes now target) :
    jar.read now target name = none := by
  rw [read, Option.map_eq_none_iff, List.find?_eq_none]
  intro c hc hname
  obtain ⟨hmem, hgoes⟩ := mem_header.mp hc
  exact h c hmem (by simpa using hname) hgoes

/-- The only cookie of its name is read when it goes along. -/
lemma read_eq_some (hmem : cookie ∈ jar.cookies)
    (honly : ∀ c ∈ jar.cookies, c.name = cookie.name → c = cookie) (hgoes : cookie.Goes now target) :
    jar.read now target cookie.name = some cookie.value := by
  have hsome : ((jar.header now target).find? fun c => c.name = cookie.name).isSome :=
    List.find?_isSome.mpr ⟨cookie, mem_header.mpr ⟨hmem, hgoes⟩, by simp⟩
  obtain ⟨found, hfound⟩ := Option.isSome_iff_exists.mp hsome
  have hname : found.name = cookie.name := by simpa using List.find?_some hfound
  obtain rfl := honly found (mem_header.mp (List.mem_of_find?_eq_some hfound)).1 hname
  rw [read, hfound, Option.map_some]

lemma storeAll_all {P : SetCookie → Prop} {cookies : List SetCookie} (hjar : ∀ c ∈ jar.cookies, P c)
    (hcookies : ∀ c ∈ cookies, P c) : ∀ c ∈ (jar.storeAll now cookies).cookies, P c := by
  induction cookies generalizing jar with
  | nil => exact hjar
  | cons x cookies ih =>
    obtain ⟨hx, hcookies⟩ := List.forall_mem_cons.mp hcookies
    refine ih (fun c hc => ?_) hcookies
    rcases mem_store.mp hc with ⟨rfl, -⟩ | ⟨hold, -⟩
    · exact hx
    · exact hjar c hold

lemma mem_storeAll_of_ne {cookies : List SetCookie} (h : ∀ x ∈ cookies, x.name ≠ c.name) :
    c ∈ (jar.storeAll now cookies).cookies ↔ c ∈ jar.cookies := by
  induction cookies generalizing jar with
  | nil => exact Iff.rfl
  | cons x cookies ih =>
    obtain ⟨hx, hcookies⟩ := List.forall_mem_cons.mp h
    exact (ih hcookies).trans (mem_store_of_ne hx.symm)

/-- When the cookies of each name share one path, those set last are the only ones of their
names. -/
theorem mem_storeAll {cookies : List SetCookie} {x : SetCookie}
    (hpaths : ∀ c ∈ jar.cookies, ∀ x ∈ cookies, c.name = x.name → c.path = x.path)
    (hnames : cookies.Pairwise fun a b => a.name ≠ b.name) (hx : x ∈ cookies) (hname : c.name = x.name) :
    c ∈ (jar.storeAll now cookies).cookies ↔ c = x ∧ x.Live now := by
  induction cookies generalizing jar with
  | nil => exact absurd hx (by simp)
  | cons y cookies ih =>
    obtain ⟨hy, hcookies⟩ := List.pairwise_cons.mp hnames
    rcases List.mem_cons.mp hx with rfl | hx
    · refine (mem_storeAll_of_ne fun z hz hzc => hy z hz (hname.symm.trans hzc.symm)).trans ?_
      rw [mem_store, or_iff_left_iff_imp]
      rintro ⟨hold, hkey⟩
      exact absurd ⟨hname.symm, (hpaths c hold x (.head _) hname).symm⟩ hkey
    · refine ih (fun d hd z hz hdz => ?_) hcookies hx
      rcases mem_store.mp hd with ⟨rfl, -⟩ | ⟨hold, -⟩
      · exact absurd hdz (hy z hz)
      · exact hpaths d hold z (.tail _ hz) hdz

/-- A cookie that was set last is read exactly while it goes along. -/
theorem read_storeAll {cookies : List SetCookie} {x : SetCookie}
    (hpaths : ∀ c ∈ jar.cookies, ∀ x ∈ cookies, c.name = x.name → c.path = x.path)
    (hnames : cookies.Pairwise fun a b => a.name ≠ b.name) (hx : x ∈ cookies) (hle : now ≤ later) :
    (jar.storeAll now cookies).read later target x.name =
      if x.Goes later target then some x.value else none := by
  have honly : ∀ {c}, c.name = x.name → (c ∈ (jar.storeAll now cookies).cookies ↔ c = x ∧ x.Live now) :=
    fun hname => mem_storeAll hpaths hnames hx hname
  split
  · next hgoes =>
    exact read_eq_some ((honly rfl).mpr ⟨rfl, hgoes.1.mono hle⟩)
      (fun c hc hname => ((honly hname).mp hc).1) hgoes
  · next hgoes =>
    refine read_eq_none fun c hc hname => ?_
    rwa [((honly hname).mp hc).1]

end Jar

/-- A path that does not end in a slash matches itself and what comes after a slash. -/
lemma pathMatches_iff {cookie request : String} (h : cookie.toList.getLast? ≠ some '/') :
    PathMatches cookie request ↔ request = cookie ∨ (cookie ++ "/").toList <+: request.toList := by
  have hslash : (cookie ++ "/").toList = cookie.toList ++ ['/'] := String.toList_append
  rw [PathMatches, or_iff_right h, hslash, eq_comm]
  refine or_congr_right ⟨?_, ?_⟩
  · rintro ⟨⟨rest, hrest⟩, hnext⟩
    rw [← hrest, List.getElem?_append_right (Nat.le_refl _), Nat.sub_self] at hnext
    obtain ⟨tail, rfl⟩ := List.head?_eq_some_iff.mp (List.head?_eq_getElem?.trans hnext)
    exact ⟨tail, by rw [← hrest, List.append_assoc, List.singleton_append]⟩
  · rintro ⟨tail, htail⟩
    rw [List.append_assoc, List.singleton_append] at htail
    refine ⟨⟨_, htail⟩, ?_⟩
    rw [← htail, List.getElem?_append_right (Nat.le_refl _), Nat.sub_self, List.getElem?_cons_zero]

lemma pathMatches_root (target : Target) : PathMatches "/" target.path :=
  .inr ⟨target.rooted, .inl rfl⟩

end CookieJar
