/-!
The control page the device serves at `/`: four panels with a "Next" button
each, sliders for the custom brightness and speed and a colour picker, kept up
to date over the WebSocket at `/ws`.
-/

namespace GalaxyProjector

namespace Web

/-- The lines of the control page, each with its line break. -/
def pageLines : List String := [
    "<!DOCTYPE html>\n",
    "<html lang=\"en\">\n",
    "<head>\n",
    "  <meta charset=\"utf-8\">\n",
    "  <meta name=\"viewport\" content=\"width=device-width, initial-scale=1\">\n",
    "  <title>Galaxy Projector</title>\n",
    "  <style>\n",
    "    body \x7b margin: 0; font-family: sans-serif; background: #0b0b14; color: #ddd; \x7d\n",
    "    header \x7b padding: 1rem; background: #14142a; text-align: center; \x7d\n",
    "    main \x7b display: grid; grid-template-columns: repeat(auto-fit, minmax(220px, 1fr));\n",
    "           gap: 1rem; padding: 1.5rem; max-width: 900px; margin: 0 auto; \x7d\n",
    "    section \x7b background: #1c1c30; border-radius: 8px; padding: 1rem; text-align: center; \x7d\n",
    "    button \x7b font-size: 1.5rem; padding: 0.6rem 2.5rem; border: 0; border-radius: 6px;\n",
    "             background: #3b6fd8; color: #fff; cursor: pointer; \x7d\n",
    "    button:active \x7b background: #2b55aa; \x7d\n",
    "    .state \x7b color: #999; margin-top: 0.6rem; \x7d\n",
    "    input \x7b margin-top: 0.6rem; width: 90%; \x7d\n",
    "    #status \x7b text-align: center; color: #c66; min-height: 1.2rem; \x7d\n",
    "  </style>\n",
    "</head>\n",
    "<body>\n",
    "  <header><h1>Galaxy Projector</h1></header>\n",
    "  <main>\n",
    "    <section>\n",
    "      <h2>Power</h2>\n",
    "      <button data-id=\"Power\">Next</button>\n",
    "      <p class=\"state\" id=\"Power-state\">-</p>\n",
    "    </section>\n",
    "    <section>\n",
    "      <h2>Brightness</h2>\n",
    "      <button data-id=\"Brightness\">Next</button>\n",
    "      <input type=\"range\" min=\"0\" max=\"255\" data-custom=\"Brightness\">\n",
    "      <p class=\"state\" id=\"Brightness-state\">-</p>\n",
    "    </section>\n",
    "    <section>\n",
    "      <h2>Colour</h2>\n",
    "      <button data-id=\"Colour\">Next</button>\n",
    "      <input type=\"color\" data-custom=\"Colour\">\n",
    "      <p class=\"state\" id=\"Colour-state\">-</p>\n",
    "    </section>\n",
    "    <section>\n",
    "      <h2>Motor</h2>\n",
    "      <button data-id=\"Motor\">Next</button>\n",
    "      <input type=\"range\" min=\"0\" max=\"255\" data-custom=\"Motor\">\n",
    "      <p class=\"state\" id=\"Motor-state\">-</p>\n",
    "    </section>\n",
    "  </main>\n",
    "  <p id=\"status\"></p>\n",
    "  <script>\n",
    "    const NAMES = \x7b\n",
    "      Power: [\"Off\", \"On\", \"Project\"],\n",
    "      Brightness: [\"Extra Low\", \"Low\", \"Medium\", \"High\"],\n",
    "      Colour: [\"Blue\", \"Red\", \"Green\", \"White\", \"Blue Red\", \"Blue Green\", \"Red Green\",\n",
    "               \"Red White\", \"Green White\", \"Red Green Blue\", \"Blue Green White\",\n",
    "               \"Blue Red Green White\", \"Cycle\", \"Pulse\"],\n",
    "      Motor: [\"Off\", \"Fast\", \"Slow\"],\n",
    "    \x7d;\n",
    "    let ws;\n",
    "\n",
    "    function connect() \x7b\n",
    "      ws = new WebSocket(`ws://$\x7blocation.host\x7d/ws`);\n",
    "      ws.onopen = () => ws.send(\"getStates\");\n",
    "      ws.onclose = () => setTimeout(connect, 2000);\n",
    "      ws.onmessage = (ev) => \x7b\n",
    "        const msg = JSON.parse(ev.data);\n",
    "        if (msg.type === \"error\") \x7b\n",
    "          document.getElementById(\"status\").textContent = msg.message;\n",
    "          return;\n",
    "        \x7d\n",
    "        for (const [id, ch] of Object.entries(msg)) \x7b\n",
    "          const label = ch.custom ? `Custom ($\x7bch.value\x7d)` : NAMES[id][ch.index];\n",
    "          document.getElementById(`$\x7bid\x7d-state`).textContent = label;\n",
    "        \x7d\n",
    "      \x7d;\n",
    "    \x7d\n",
    "\n",
    "    document.querySelectorAll(\"button[data-id]\").forEach((b) =>\n",
    "      b.addEventListener(\"click\", () => ws.send(b.dataset.id)));\n",
    "\n",
    "    document.querySelectorAll(\"input[data-custom]\").forEach((input) =>\n",
    "      input.addEventListener(\"change\", () => \x7b\n",
    "        const id = input.dataset.custom;\n",
    "        // Farbe als 0xRRGGBBWW, Weiß-Anteil 0\n",
    "        const value = id === \"Colour\"\n",
    "          ? parseInt(input.value.slice(1) + \"00\", 16)\n",
    "          : Number(input.value);\n",
    "        ws.send(JSON.stringify(\x7b id, mode: 1, value \x7d));\n",
    "      \x7d));\n",
    "\n",
    "    connect();\n",
    "  </script>\n",
    "</body>\n",
    "</html>\n"]

def page : String := String.join pageLines

end Web

end GalaxyProjector
