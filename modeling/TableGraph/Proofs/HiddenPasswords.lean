/-
Passwords of connections are hidden: what is shown of a URL does not depend on its password, which may hold at signs,
colons, slashes and the mark of a scheme itself.

A URL with a password is data here: a scheme, which ends at the first mark, the name of a user without a colon, a password,
and what follows the last at sign. Every text that is changed at all is the text of such a URL (`maskPassword_eq_self`), so
that what holds of these URLs holds of all texts.

Results:
- `SecretUrl.maskPassword_text`: three asterisks stand for the password, whatever it is, and nothing else changes.
- `passwords_hidden`: so URLs that differ only in the password are shown as the same text, and masking twice is masking
  once.
Witness:
- `hidden_among_marks`: a password made of the marks that are searched for.
-/
import TableGraph.Source.Connection

namespace TableGraph.Connection

open Text

/-- a URL with the name of a user and a password -/
structure SecretUrl where
  scheme : List Char
  user : List Char
  password : List Char
  host : List Char
  scheme_ends : EndsAtFirst schemeMark scheme
  user_plain : ':' ∉ user
  host_plain : '@' ∉ host

namespace SecretUrl

/-- the text of a URL -/
def text (url : SecretUrl) : List Char :=
  url.scheme ++ schemeMark ++ (url.user ++ ':' :: url.password ++ '@' :: url.host)

/-- the same URL with another password -/
def withPassword (url : SecretUrl) (password : List Char) : SecretUrl := { url with password := password }

/-- the same URL with asterisks for the password -/
def masked (url : SecretUrl) : SecretUrl := url.withPassword ['*', '*', '*']

@[simp] theorem masked_masked (url : SecretUrl) : url.masked.masked = url.masked := rfl

/-- **Asterisks stand for the password**, whatever it is -/
theorem maskPassword_text (url : SecretUrl) : maskPassword url.text = url.masked.text := by
  have hscheme : splitFirst schemeMark url.text =
      some (url.scheme, url.user ++ ':' :: url.password ++ '@' :: url.host) :=
    splitFirst_eq_some_iff.mpr ⟨rfl, url.scheme_ends⟩
  have hhost : splitLast '@' (url.user ++ ':' :: url.password ++ '@' :: url.host) =
      some (url.user ++ ':' :: url.password, url.host) := splitLast_append url.host_plain
  have huser : splitFirst [':'] (url.user ++ ':' :: url.password) = some (url.user, url.password) :=
    splitFirst_eq_some_iff.mpr ⟨by simp, endsAtFirst_singleton_iff.mpr url.user_plain⟩
  simp only [maskPassword, hscheme, hhost, maskUser, huser, Option.map_some]
  simp [text, masked, withPassword]

end SecretUrl

/-- a text in which all marks are found is that of a URL with a password, and so every other text is left alone -/
theorem maskPassword_eq_self {s : List Char} (h : ∀ url : SecretUrl, url.text ≠ s) : maskPassword s = s := by
  unfold maskPassword
  split
  · rfl
  · rename_i scheme rest hscheme
    split
    · rfl
    · rename_i user host hhost
      split
      · rfl
      · rename_i masked hmasked
        obtain ⟨⟨name, password⟩, hname, rfl⟩ := Option.map_eq_some_iff.mp hmasked
        obtain ⟨rfl, hends⟩ := splitFirst_eq_some_iff.mp hscheme
        obtain ⟨rfl, hplain⟩ := splitLast_eq_some hhost
        obtain ⟨rfl, huser⟩ := splitFirst_eq_some_iff.mp hname
        refine absurd ?_ (h ⟨scheme, name, password, host, hends, endsAtFirst_singleton_iff.mp huser, hplain⟩)
        simp [SecretUrl.text]

/-- masking twice is masking once -/
theorem maskPassword_idempotent (s : List Char) : maskPassword (maskPassword s) = maskPassword s := by
  by_cases h : ∃ url : SecretUrl, url.text = s
  · obtain ⟨url, rfl⟩ := h
    rw [url.maskPassword_text, url.masked.maskPassword_text, url.masked_masked]
  · have hself := maskPassword_eq_self (not_exists.mp h)
    rw [hself, hself]

/-- of the URL of a connection, only what is left when it is masked is shown -/
theorem shown_congr {a b : Connection} (hurl : maskPassword a.url.toList = maskPassword b.url.toList)
    (hmax : a.maxConnections = b.maxConnections) (htimeout : a.timeoutSeconds = b.timeoutSeconds) : a.shown = b.shown := by
  -- the equation of `shown` is not used: it takes the texts of the messages apart
  delta shown
  rw [hurl, hmax, htimeout]

/-- **Passwords are hidden.** Let the mark behind a scheme be the first one, and let a name have no colon and a host no at
sign. Then exactly the password between them is replaced, by three asterisks, whatever the password is; so URLs with two
passwords become the same text, also where a connection is shown. And masking any text twice is masking it once. -/
theorem passwords_hidden :
    (∀ scheme user host : List Char, EndsAtFirst schemeMark scheme → ':' ∉ user → '@' ∉ host →
      let url := fun secret : List Char => scheme ++ schemeMark ++ user ++ ':' :: secret ++ '@' :: host
      ∀ password : List Char, maskPassword (url password) = url ['*', '*', '*'] ∧
        ∀ other : List Char, maskPassword (url password) = maskPassword (url other) ∧
          ∀ maxConnections timeoutSeconds : Nat,
            shown ⟨String.ofList (url password), maxConnections, timeoutSeconds⟩ =
              shown ⟨String.ofList (url other), maxConnections, timeoutSeconds⟩) ∧
    ∀ s : List Char, maskPassword (maskPassword s) = maskPassword s := by
  refine ⟨?_, maskPassword_idempotent⟩
  intro scheme user host hscheme huser hhost url password
  let secretUrl (secret : List Char) : SecretUrl := ⟨scheme, user, secret, host, hscheme, huser, hhost⟩
  have htext (secret : List Char) : url secret = (secretUrl secret).text := by simp [url, SecretUrl.text, secretUrl]
  have hmasked (secret : List Char) : maskPassword (url secret) = url ['*', '*', '*'] := by
    rw [htext, htext]
    exact (secretUrl secret).maskPassword_text
  refine ⟨hmasked password, fun other => ?_⟩
  have hsame : maskPassword (url password) = maskPassword (url other) := (hmasked password).trans (hmasked other).symm
  exact ⟨hsame, fun _ _ => shown_congr (by simpa only [String.toList_ofList] using hsame) rfl rfl⟩

/-- a password that holds an at sign, a colon and the mark of a scheme, of a user whose name holds an at sign -/
theorem hidden_among_marks :
    let url := fun secret : List Char => ['p', 'g'] ++ schemeMark ++ ['a', '@', 'b'] ++ ':' :: secret ++ '@' :: ['d', 'b']
    EndsAtFirst schemeMark ['p', 'g'] ∧ ':' ∉ ['a', '@', 'b'] ∧ '@' ∉ ['d', 'b'] ∧
      maskPassword (url ['x', '@', ':', '/', '/', 'y', '@']) = "pg://a@b:***@db".toList ∧
      maskPassword (url ['x', '@', ':', '/', '/', 'y', '@']) = maskPassword (url []) := by
  intro url
  have hscheme : EndsAtFirst schemeMark ['p', 'g'] := by
    have hsplit : splitFirst schemeMark (['p', 'g'] ++ schemeMark) = some (['p', 'g'], []) := by decide
    exact (splitFirst_eq_some_iff.mp hsplit).2
  obtain ⟨hmasked, hsame⟩ := passwords_hidden.1 ['p', 'g'] ['a', '@', 'b'] ['d', 'b'] hscheme (by decide) (by decide)
    ['x', '@', ':', '/', '/', 'y', '@']
  exact ⟨hscheme, by decide, by decide, hmasked.trans (by decide), (hsame []).1⟩

end TableGraph.Connection
