/-!
# Request tokens

A token names the request that a completion belongs to. It is handed back as it was given
and never looked into.
-/

namespace DeviceLink

/-- The name of a request. -/
structure Token where
  value : UInt64
  deriving DecidableEq, Repr, Inhabited

/-- A token as a diagnostic shows it. -/
def Token.render (t : Token) : String := s!"#{t.value.toNat}"

/-- A source of tokens, the numbers from one on. -/
structure TokenSource where
  next : UInt64 := 1
  deriving DecidableEq, Repr

/-- The next token, and the source after it. -/
def TokenSource.take (s : TokenSource) : Token × TokenSource :=
  (⟨s.next⟩, ⟨s.next + 1⟩)

end DeviceLink
