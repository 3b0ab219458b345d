namespace GuestSandbox

-- The script that is evaluated in every fresh instance before the code of a run. It takes the host functions off the
-- globals, puts `console`, `fetch` and `pkg` in their place, and defines the functions through which a run is driven.
def bootstrap : String := "
(() => \x7b
  \"use strict\";
  const g = globalThis;
  const host = \x7b
    log: g.__host_log,
    install: g.__host_pkg_install,
    list: g.__host_pkg_list,
    fetch: g.__host_fetch,
  \x7d;
  for (const name of [\"__host_log\", \"__host_pkg_install\", \"__host_pkg_list\", \"__host_fetch\"]) \x7b
    delete g[name];
  \x7d

  const pending = new Map();
  const unwrap = (text) => \x7b
    const reply = JSON.parse(text);
    if (!reply.ok) throw new Error(reply.error);
    return reply;
  \x7d;
  const defer = (reply) =>
    new Promise((resolve, reject) => pending.set(reply.pending, \x7b resolve, reject \x7d));

  const show = (value) => \x7b
    if (typeof value === \"string\") return value;
    if (value instanceof Error) return `$\x7bvalue.name\x7d: $\x7bvalue.message\x7d`;
    try \x7b
      const text = JSON.stringify(value);
      return text === undefined ? String(value) : text;
    \x7d catch (_) \x7b
      return String(value);
    \x7d
  \x7d;
  const emit = (level) => (...args) => \x7b
    unwrap(host.log(level, args.map(show).join(\" \")));
  \x7d;
  g.console = \x7b
    log: emit(\"log\"),
    info: emit(\"log\"),
    debug: emit(\"log\"),
    warn: emit(\"warn\"),
    error: emit(\"error\"),
  \x7d;

  class Response \x7b
    constructor(raw) \x7b
      this.status = raw.status;
      this.ok = raw.ok;
      this.url = raw.finalUrl;
      this.headers = raw.headers;
      this.bodyText = raw.bodyText;
    \x7d
    text() \x7b
      return Promise.resolve(this.bodyText);
    \x7d
    json() \x7b
      return Promise.resolve(this.bodyText).then((text) => JSON.parse(text));
    \x7d
  \x7d
  g.Response = Response;

  g.fetch = (url, init) => \x7b
    const reply = unwrap(host.fetch(String(url), JSON.stringify(init === undefined ? \x7b\x7d : init)));
    return defer(reply).then((raw) => new Response(raw));
  \x7d;

  const pkg = \x7b
    install: (spec) => defer(unwrap(host.install(String(spec), \"\"))),
    list: () => unwrap(host.list(\"\", \"\")).value,
    import: (spec) => pkg.install(spec).then(() => import(\"npm:\" + String(spec).trim())),
  \x7d;
  g.pkg = Object.freeze(pkg);

  const describe = (error) =>
    error instanceof Error ? `$\x7berror.name\x7d: $\x7berror.message\x7d` : show(error);
  const serialize = (value) => \x7b
    try \x7b
      const text = JSON.stringify(value);
      return text === undefined ? null : text;
    \x7d catch (_) \x7b
      return JSON.stringify(String(value));
    \x7d
  \x7d;

  let outcome = \x7b state: \"pending\" \x7d;
  const capture = (value) => \x7b
    const thenable =
      value !== null &&
      (typeof value === \"object\" || typeof value === \"function\") &&
      typeof value.then === \"function\";
    if (!thenable) \x7b
      outcome = \x7b state: \"fulfilled\", value \x7d;
      return;
    \x7d
    value.then(
      (settled) => \x7b outcome = \x7b state: \"fulfilled\", value: settled \x7d; \x7d,
      (error) => \x7b outcome = \x7b state: \"rejected\", error: describe(error) \x7d; \x7d,
    );
  \x7d;

  const internal = (name, fn) =>
    Object.defineProperty(g, name, \x7b value: fn, writable: false, enumerable: false, configurable: false \x7d);

  internal(\"__init\", (inputJson) => \x7b
    g.input = JSON.parse(inputJson);
    return \"\";
  \x7d);
  internal(\"__run\", (code) => \x7b
    capture((0, eval)(code));
    return \"\";
  \x7d);
  internal(\"__settle\", (messageJson) => \x7b
    const message = JSON.parse(messageJson);
    const entry = pending.get(message.id);
    if (entry) \x7b
      pending.delete(message.id);
      if (message.ok) entry.resolve(message.value);
      else entry.reject(new Error(message.error));
    \x7d
    return \"\";
  \x7d);
  internal(\"__finish\", () => \x7b
    if (outcome.state !== \"fulfilled\") \x7b
      return JSON.stringify(outcome);
    \x7d
    const value = g.__result !== undefined ? g.__result : outcome.value;
    return JSON.stringify(\x7b state: \"fulfilled\", json: serialize(value) \x7d);
  \x7d);
\x7d)();
"

end GuestSandbox
