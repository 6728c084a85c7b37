import LogSift.Builtin.Table

/-!
Patterns for network addresses, file paths and resource identifiers.
-/

namespace LogSift.Builtin

/-- Hardware addresses, internet addresses and host names. -/
def addresses : Table :=
  [("CISCOMAC", r"(?:(?:[A-Fa-f0-9]{4}\.){2}[A-Fa-f0-9]{4})"),
   ("WINDOWSMAC", r"(?:(?:[A-Fa-f0-9]{2}-){5}[A-Fa-f0-9]{2})"),
   ("COMMONMAC", r"(?:(?:[A-Fa-f0-9]{2}:){5}[A-Fa-f0-9]{2})"),
   ("MAC", r"(?:%{CISCOMAC}|%{WINDOWSMAC}|%{COMMONMAC})"),
   ("IPV6",
    r"((([0-9A-Fa-f]{1,4}:){7}([0-9A-Fa-f]{1,4}|:))|(([0-9A-Fa-f]{1,4}:){6}(:[0-9A-Fa-f]{1,4}|((25[0-5]|2[0-4]\d|1\d\d|[1-9]?\d)(\.(25[0-5]|2[0-4]\d|1\d\d|[1-9]?\d)){3})|:))|(([0-9A-Fa-f]{1,4}:){5}(((:[0-9A-Fa-f]{1,4}){1,2})|:((25[0-5]|2[0-4]\d|1\d\d|[1-9]?\d)(\.(25[0-5]|2[0-4]\d|1\d\d|[1-9]?\d)){3})|:))|(([0-9A-Fa-f]{1,4}:){4}(((:[0-9A-Fa-f]{1,4}){1,3})|((:[0-9A-Fa-f]{1,4})?:((25[0-5]|2[0-4]\d|1\d\d|[1-9]?\d)(\.(25[0-5]|2[0-4]\d|1\d\d|[1-9]?\d)){3}))|:))|(([0-9A-Fa-f]{1,4}:){3}(((:[0-9A-Fa-f]{1,4}){1,4})|((:[0-9A-Fa-f]{1,4}){0,2}:((25[0-5]|2[0-4]\d|1\d\d|[1-9]?\d)(\.(25[0-5]|2[0-4]\d|1\d\d|[1-9]?\d)){3}))|:))|(([0-9A-Fa-f]{1,4}:){2}(((:[0-9A-Fa-f]{1,4}){1,5})|((:[0-9A-Fa-f]{1,4}){0,3}:((25[0-5]|2[0-4]\d|1\d\d|[1-9]?\d)(\.(25[0-5]|2[0-4]\d|1\d\d|[1-9]?\d)){3}))|:))|(([0-9A-Fa-f]{1,4}:){1}(((:[0-9A-Fa-f]{1,4}){1,6})|((:[0-9A-Fa-f]{1,4}){0,4}:((25[0-5]|2[0-4]\d|1\d\d|[1-9]?\d)(\.(25[0-5]|2[0-4]\d|1\d\d|[1-9]?\d)){3}))|:))|(:(((:[0-9A-Fa-f]{1,4}){1,7})|((:[0-9A-Fa-f]{1,4}){0,5}:((25[0-5]|2[0-4]\d|1\d\d|[1-9]?\d)(\.(25[0-5]|2[0-4]\d|1\d\d|[1-9]?\d)){3}))|:)))(%.+)?"),
   ("IPV4",
    r"(?:(?:25[0-5]|2[0-4][0-9]|[01]?[0-9][0-9]?)\.){3}(?:25[0-5]|2[0-4][0-9]|[01]?[0-9][0-9]?)"),
   ("IP", r"(?:%{IPV6}|%{IPV4})"),
   ("HOSTNAME",
    r"\b(?:[0-9A-Za-z][0-9A-Za-z-]{0,62})(?:\.(?:[0-9A-Za-z][0-9A-Za-z-]{0,62}))*(?:\.?|\b)"),
   ("IPORHOST", r"(?:%{IP}|%{HOSTNAME})"),
   ("HOSTPORT", r"%{IPORHOST}:%{POSINT}")]

/-- File paths and resource identifiers with their parts. -/
def paths : Table :=
  [("UNIXPATH", r"(?:/[\w_%!$@:.,+~-]*)+"),
   ("TTY", r"(?:/dev/(?:pts|tty(?:[pq])?)(?:\w+)?/?(?:[0-9]+))"),
   ("WINPATH", r"(?:[A-Za-z]+:|\\)(?:\\[^\\?*]*)+"),
   ("PATH", r"(?:%{UNIXPATH}|%{WINPATH})"),
   ("URIPROTO", r"[A-Za-z](?:[A-Za-z0-9+\-.]+)+"),
   ("URIHOST", r"%{IPORHOST}(?::%{POSINT})?"),
   ("URIPATH", r"(?:/[A-Za-z0-9$.+!*'(){},~:;=@#%&_\-]*)+"),
   ("URIQUERY", r"[A-Za-z0-9$.+!*'|(){},~@#%&/=:;_?\-\[\]<>]*"),
   ("URIPARAM", r"\?%{URIQUERY}"),
   ("URIPATHPARAM", r"%{URIPATH}(?:%{URIPARAM})?"),
   ("URI", r"%{URIPROTO}://(?:%{USER}(?::[^@]*)?@)?(?:%{URIHOST})?(?:%{URIPATHPARAM})?")]

end LogSift.Builtin
